import CapeWallet.Spec.Server

/-!
# `parse_route` against tide's router

`entry_page` "duplicates the logic for deciding which route was requested" (its doc comment,
`wallet/src/main.rs:213-216`). tide has already routed the request to a registered route
(`Recognizes`). `parse_route` decides again among the alternatives of a group, by its own rule
(`FullMatch`): the keys of the group are its parameters, and the request reads `""` past its
end. This file says when the two decisions are one, and what an `Ok` of `parse_route` means on
every configuration.

* `ArgumentsParse ts g p segs`: every `:` segment of `p` parses, under the type its key names,
  the request segment at its place. `routedAlternatives`: the alternatives tide routes a request
  to with every parameter parsed.
* `RoutingGroup ts k g paths doc`: the group `g` under the key `k` is well formed, rejects no
  type name, starts every alternative with the literal `k`, has no `*` segment, has as keys
  among an alternative's segments exactly its `:` segments, and has no segment that matches an
  empty request segment. `RoutingApi`: `api["route"]` is a table of such groups, one per key, as
  a parsed toml table is. `init_server` checks none of it.

Results:
* `full_match_iff_routed`: on an alternative whose keys are its `:` segments and none of whose
  segments matches the empty segment, a full match is the instance relation (`IsInstance`)
  together with the parse of every parameter.
* `routed_request_agrees`: on a configuration of routing groups that `init_server` accepts, a
  request tide routes to a route registered from `api["route"]`, whose parameters parse, gets
  `Ok` with that very route when it is the only alternative of its group routed to with parsed
  parameters, and the trace closed by `Ambiguity in api.toml` otherwise: never
  `Need documentation`, never `Ok` with another route.
* `parse_route_ok_sound`: on every configuration, an `Ok (p, B)` names an alternative of the
  `PATH` of the group the request selects, which the request fully matches; `B` binds as
  `specBinding` says; and `init_server` registered `p`, with the group's `WEB_SOCKET` flag.
-/

namespace CapeWallet

open Outcome

variable {τ ν : Type}

/-- Every `:` segment of the route `path` parses, under the type its key in `api` names, the
request segment at its place. -/
def ArgumentsParse (ts : SegmentTypes τ ν) (api : Value) (path : String) (segs : List String) :
    Prop :=
  List.Forall₂ (fun pat seg => isParameter pat = true → segmentMatches ts api pat seg = true)
    (splitSlash path) segs

instance (ts : SegmentTypes τ ν) (api : Value) (path : String) (segs : List String) :
    Decidable (ArgumentsParse ts api path segs) :=
  inferInstanceAs (Decidable (List.Forall₂ _ _ _))

/-- The alternatives among `paths` that tide routes `segs` to, with every parameter parsed. -/
def routedAlternatives (ts : SegmentTypes τ ν) (api : Value) (segs paths : List String) :
    List String :=
  paths.filter fun p => decide (Recognizes p segs ∧ ArgumentsParse ts api p segs)

/-- The group `g` under the key `k` decides as tide routes: well formed, no type name rejected,
every alternative led by the literal `k` and free of `*` segments, the keys among an
alternative's segments exactly its `:` segments, and no segment matching an empty request
segment. -/
structure RoutingGroup (ts : SegmentTypes τ ν) (k : String) (g : Value) (paths : List String)
    (doc : String) extends WellFormedGroup g paths doc : Prop where
  accepts : ¬ RejectsType ts g paths
  literal : isLiteral k = true
  head : ∀ p ∈ paths, (splitSlash p).head? = some k
  noWildcard : ∀ p ∈ paths, ∀ s ∈ splitSlash p, isWildcard s = false
  parameters : ∀ p ∈ paths, ∀ s ∈ splitSlash p, (g.get s).isSome = isParameter s
  nonEmpty : ∀ p ∈ paths, ∀ s ∈ splitSlash p, segmentMatches ts g s "" = false

/-- `api["route"]` is a table of routing groups, one per key. -/
def RoutingApi (ts : SegmentTypes τ ν) (cfg : Value) : Prop :=
  ∃ groups, cfg.get "route" = some (.table groups) ∧ (groups.map Prod.fst).Nodup ∧
    ∀ kg ∈ groups, ∃ paths doc, RoutingGroup ts kg.1 kg.2 paths doc

variable {ts : SegmentTypes τ ν} {api : Value}

/-! ## One alternative -/

/-- Where no segment of the pattern matches the empty request segment, a full match is a match
segment by segment of a request exactly as long as the pattern. -/
theorem fullMatch_iff_forall₂ {r : List String} {p : String}
    (hempty : ∀ s ∈ splitSlash p, segmentMatches ts api s "" = false) :
    FullMatch ts api r p ↔
      List.Forall₂ (fun s x => segmentMatches ts api s x = true) (splitSlash p) r := by
  unfold FullMatch
  generalize splitSlash p = ps at hempty
  induction ps generalizing r with
  | nil => simp [List.forall₂_nil_left_iff, List.length_eq_zero]
  | cons s ps ih =>
    cases r with
    | nil =>
      refine iff_of_false (fun h => ?_) (by simp)
      simpa [hempty s (.head _)] using h.2 0 (Nat.succ_pos _)
    | cons x r =>
      rw [List.forall₂_cons, ← ih fun s' hs' => hempty s' (.tail _ hs')]
      simp only [List.length_cons, Nat.succ_le_succ_iff]
      constructor
      · rintro ⟨hl, h⟩
        exact ⟨h 0 (Nat.succ_pos _), hl, fun i hi => h (i + 1) (Nat.succ_lt_succ hi)⟩
      · rintro ⟨h0, hl, h⟩
        refine ⟨hl, fun i hi => ?_⟩
        cases i with
        | zero => exact h0
        | succ i => exact h i (Nat.lt_of_succ_lt_succ hi)

/-- On a segment that is a key exactly when it starts with `:`, a match is tide's (a parameter,
or the literal itself) where the parameter parses. -/
theorem segmentMatches_iff_routed {s x : String} (hs : (api.get s).isSome = isParameter s) :
    segmentMatches ts api s x = true ↔
      (isParameter s = true ∨ s = x) ∧ (isParameter s = true → segmentMatches ts api s x = true) := by
  cases hp : isParameter s
  · -- a literal is no key: the request must repeat it
    rw [hp, ← Bool.not_eq_true, Option.not_isSome_iff_eq_none] at hs
    simp only [segmentMatches, hs, beq_iff_eq, Bool.false_eq_true, false_or, false_implies,
      and_true]
    exact eq_comm
  · simp

/-- A full match, on an alternative that decides as tide routes, is an instance with parsed
parameters. -/
theorem fullMatch_iff_instance {r : List String} {p : String}
    (hkeys : ∀ s ∈ splitSlash p, (api.get s).isSome = isParameter s)
    (hempty : ∀ s ∈ splitSlash p, segmentMatches ts api s "" = false) :
    FullMatch ts api r p ↔ IsInstance p r ∧ ArgumentsParse ts api p r := by
  -- position by position, along the zip of pattern and request
  have hseg : ∀ {s x}, (s, x) ∈ (splitSlash p).zip r → (segmentMatches ts api s x = true ↔
      (isParameter s = true ∨ s = x) ∧ (isParameter s = true → segmentMatches ts api s x = true)) :=
    fun hsx => segmentMatches_iff_routed (hkeys _ (List.of_mem_zip hsx).1)
  rw [fullMatch_iff_forall₂ hempty, IsInstance, ArgumentsParse, List.forall₂_iff_zip,
    List.forall₂_iff_zip, List.forall₂_iff_zip]
  exact ⟨fun ⟨hl, h⟩ => ⟨⟨hl, fun hsx => ((hseg hsx).1 (h hsx)).1⟩, hl,
      fun hsx => ((hseg hsx).1 (h hsx)).2⟩,
    fun ⟨⟨hl, hi⟩, _, ha⟩ => ⟨hl, fun hsx => (hseg hsx).2 ⟨hi hsx, ha hsx⟩⟩⟩

/-- On a route without `*` segments that loses no `/` to route-recognizer, and none of whose
segments matches an empty request segment, tide routes a request with parsed parameters to it
exactly when the request is an instance of it with parsed parameters: the parse of a parameter
already rules out the empty segment tide does not route. -/
theorem recognizes_and_parse_iff {r : List String} {p : String}
    (hslash : routeSegments p = splitSlash p) (hstar : ∀ s ∈ splitSlash p, isWildcard s = false)
    (hempty : ∀ s ∈ splitSlash p, segmentMatches ts api s "" = false) :
    Recognizes p r ∧ ArgumentsParse ts api p r ↔ IsInstance p r ∧ ArgumentsParse ts api p r := by
  -- position by position, along the zip of pattern and request
  have hseg : ∀ {s x}, (s, x) ∈ (splitSlash p).zip r →
      ((if isParameter s then x ≠ "" else s = x) ∧
          (isParameter s = true → segmentMatches ts api s x = true) ↔
        (isParameter s = true ∨ s = x) ∧
          (isParameter s = true → segmentMatches ts api s x = true)) := by
    intro s x hsx
    cases hp : isParameter s
    · simp
    · refine ⟨fun h => ⟨.inl rfl, h.2⟩, fun ⟨_, h⟩ => ⟨?_, h⟩⟩
      rintro rfl
      simpa [hempty s (List.of_mem_zip hsx).1] using h rfl
  rw [Recognizes, hslash, matchSegments_iff_forall₂ hstar, IsInstance, ArgumentsParse,
    List.forall₂_iff_zip, List.forall₂_iff_zip, List.forall₂_iff_zip]
  exact ⟨fun ⟨⟨hl, h1⟩, _, h2⟩ => ⟨⟨hl, fun hsx => ((hseg hsx).1 ⟨h1 hsx, h2 hsx⟩).1⟩, hl, h2⟩,
    fun ⟨⟨hl, h1⟩, _, h2⟩ => ⟨⟨hl, fun hsx => ((hseg hsx).2 ⟨h1 hsx, h2 hsx⟩).1⟩, hl, h2⟩⟩

/-- **A full match is tide's route with parsed parameters.** On an alternative whose keys are
exactly its `:` segments and none of whose segments matches an empty request segment, every
request fully matches it exactly when the request is an instance of it in tide's sense and
every parameter parses the request segment at its place. -/
theorem full_match_iff_routed (ts : SegmentTypes τ ν) (api : Value) (r : List String)
    {p : String} (hkeys : ∀ s ∈ splitSlash p, (api.get s).isSome = isParameter s)
    (hempty : ∀ s ∈ splitSlash p, segmentMatches ts api s "" = false) :
    FullMatch ts api r p ↔ IsInstance p r ∧ ArgumentsParse ts api p r :=
  fullMatch_iff_instance hkeys hempty

/-- `getinfo/true` fully matches `getinfo/:verbose`: tide routes it there and `true` parses. -/
theorem full_match_iff_routed_info :
    (FullMatch sampleTypes infoGroup ["getinfo", "true"] "getinfo/:verbose" ↔
      IsInstance "getinfo/:verbose" ["getinfo", "true"] ∧
        ArgumentsParse sampleTypes infoGroup "getinfo/:verbose" ["getinfo", "true"]) :=
  full_match_iff_routed sampleTypes infoGroup _ (by decide) (by decide)

/-! ## Requests tide routes -/

section Routed

variable {k : String} {g : Value} {paths : List String} {doc : String}

/-- On a routing group, the alternatives that fully match are those tide routes to with parsed
parameters. -/
theorem RoutingGroup.filter_fullMatch (hgrp : RoutingGroup ts k g paths doc) (r : List String) :
    paths.filter (fun q => decide (FullMatch ts g r q)) = routedAlternatives ts g r paths :=
  List.filter_congr fun q hq => decide_eq_decide.2 <|
    (fullMatch_iff_instance (hgrp.parameters q hq) (hgrp.nonEmpty q hq)).trans
      (recognizes_and_parse_iff (routeSegments_of_head (hgrp.head q hq) hgrp.literal)
        (hgrp.noWildcard q hq) (hgrp.nonEmpty q hq)).symm

/-- A list holding `a` that is not `[a]` has two entries or more. -/
theorem two_le_length_of_mem {α : Type} {l : List α} {a : α} (h : a ∈ l) (hne : l ≠ [a]) :
    2 ≤ l.length := by
  rcases l with _ | ⟨b, _ | ⟨c, l⟩⟩
  · cases h
  · exact absurd (by rw [List.mem_singleton.1 h]) hne
  · simp

variable {cfg : Value} {routes : List Route} {route : Route} {segs : List String}

/-- A request tide routes to a route of a routing configuration selects the route's group. -/
theorem routed_group (hinit : initServer cfg = .ok routes) (hcfg : RoutingApi ts cfg)
    (hroute : route ∈ routes) (hrec : Recognizes route.path segs) :
    ∃ k rest g paths doc, segs = k :: rest ∧ routeGroup cfg k = some g ∧
      RoutingGroup ts k g paths doc ∧ route.path ∈ paths := by
  obtain ⟨groups, hr, hnd, hgroups⟩ := hcfg
  obtain ⟨⟨k, g⟩, hkg, rs, hrs, hmem⟩ := mem_initServer hr hinit hroute
  obtain ⟨paths, doc, hgrp⟩ := hgroups _ hkg
  have hp := mem_groupRoutes hgrp.path hrs hmem
  obtain ⟨rest, rfl⟩ := recognizes_head hrec (hgrp.head _ hp) hgrp.literal
  exact ⟨k, rest, g, paths, doc, rfl,
    Option.bind_eq_some.2 ⟨_, hr, Value.lookup_of_nodup hnd hkg⟩, hgrp, hp⟩

/-- **`parse_route` picks the route tide picked.** On a configuration of routing groups that
`init_server` accepts, a request tide routes to a route registered from `api["route"]` selects
the route's group.
When the route's parameters parse, `parse_route` answers `Ok` with that route, bound as
`specBinding` says, if no other alternative of the group is routed to with parsed parameters,
and otherwise the trace with two or more full matches, closed by `Ambiguity in api.toml`. -/
theorem routed_request_agrees (ts : SegmentTypes τ ν) (hinit : initServer cfg = .ok routes)
    (hcfg : RoutingApi ts cfg) (hroute : route ∈ routes) (hrec : Recognizes route.path segs) :
    ∃ g paths doc, routeGroup cfg (segs.headD "") = some g ∧
      RoutingGroup ts (segs.headD "") g paths doc ∧ route.path ∈ paths ∧
      (ArgumentsParse ts g route.path segs →
        (routedAlternatives ts g segs paths = [route.path] →
          ∃ B, parseRoute ts cfg (some segs) = .ok (route.path, B) ∧
            ∀ x, B.lookup x = specBinding ts g segs route.path x) ∧
        (routedAlternatives ts g segs paths ≠ [route.path] →
          ∃ sections, TraceSections ts g segs paths sections ∧
            2 ≤ (routedAlternatives ts g segs paths).length ∧
            parseRoute ts cfg (some segs) =
              .err (failureTrace doc sections (routedAlternatives ts g segs paths).length))) := by
  obtain ⟨k, rest, g, paths, doc, rfl, hg, hgrp, hp⟩ := routed_group hinit hcfg hroute hrec
  refine ⟨g, paths, doc, hg, hgrp, hp, fun hargs => ⟨fun hone => ?_, fun hmany => ?_⟩⟩
  · -- the routed alternative is the one full match
    obtain ⟨B, hB, -, hlook⟩ := parseRoute_ok_of_unique hg hgrp.toWellFormedGroup hgrp.accepts
      ((hgrp.filter_fullMatch _).trans hone)
    exact ⟨B, hB, hlook⟩
  · -- it is one of two full matches or more
    have h2 := two_le_length_of_mem
      (List.mem_filter.2 ⟨hp, decide_eq_true ⟨hrec, hargs⟩⟩) hmany
    have hcount : fullMatchCount ts g (k :: rest) paths =
        (routedAlternatives ts g (k :: rest) paths).length := by
      rw [fullMatchCount, List.countP_eq_length_filter, hgrp.filter_fullMatch]
    obtain ⟨sections, hsec, htrace⟩ :=
      parseRoute_failureTrace rest hg hgrp.toWellFormedGroup hgrp.accepts
    rw [hcount] at htrace
    exact ⟨sections, hsec, h2, htrace (Nat.ne_of_gt h2)⟩

end Routed

/-- The `getinfo` configuration is a routing configuration. -/
theorem routingApi_infoApi : RoutingApi sampleTypes infoApi :=
  ⟨_, rfl, by decide, fun kg hkg => by
    obtain rfl := List.mem_singleton.1 hkg
    exact ⟨["getinfo/all", "getinfo/:verbose"], _,
      { path := rfl, doc := rfl, keys := by decide, accepts := by decide, literal := by decide,
        head := by decide, noWildcard := by decide, parameters := by decide,
        nonEmpty := by decide }⟩⟩

/-- tide routes `getinfo/all` to both alternatives, but `all` is no `Boolean`: `parse_route`
answers `Ok` with the route whose parameters parse. -/
theorem routed_request_agrees_info :
    RoutingApi sampleTypes infoApi ∧ ∃ B, parseRoute sampleTypes infoApi
      (some ["getinfo", "all"]) = .ok ("getinfo/all", B) := by
  obtain ⟨g, paths, doc, hg, hgrp, -, h⟩ := routed_request_agrees sampleTypes
    (rfl : initServer infoApi = .ok [⟨"getinfo/all", false⟩, ⟨"getinfo/:verbose", false⟩])
    routingApi_infoApi (List.mem_cons_self _ _)
    (by decide : Recognizes "getinfo/all" ["getinfo", "all"])
  cases Option.some.inj (hg.symm.trans rfl : some g = some infoGroup)
  cases List.map_injective_iff.2 (fun _ _ => Value.string.inj)
    (Value.array.inj (Option.some.inj (hgrp.path.symm.trans rfl)) :
      paths.map Value.string = ["getinfo/all", "getinfo/:verbose"].map Value.string)
  obtain ⟨B, hB, -⟩ := (h (by decide)).1 (by decide)
  exact ⟨routingApi_infoApi, B, hB⟩

/-! ## Every `Ok` -/

section Sound

variable {state : Value} {first : String} {rest : List String}

/-- The two lookups `api["route"][first_segment]` are one lookup of the group, with the message
of `Index` where either finds nothing. -/
theorem bind_index_route {β : Type} (cfg : Value) (first : String)
    (k : Value → Outcome String β) :
    (cfg.index "route" >>= fun routes => routes.index first >>= k) =
      expect (routeGroup cfg first) "index not found" >>= k := by
  rcases hr : cfg.get "route" with _ | routes <;> simp [Value.index, routeGroup, hr]

/-- An `Ok` of `parse_route` on a request comes after the lookups of the group, of its `PATH`
array and of its `DOC` string, from the alternatives' runs and `matchResult`. -/
theorem parseRoute_eq_ok {x : String × Bindings τ ν}
    (h : parseRoute ts state (some (first :: rest)) = ok x) :
    ∃ api ps doc, routeGroup state first = some api ∧ api.get "PATH" = some (.array ps) ∧
      api.get "DOC" = some (.string doc) ∧
      (traverseList (altRun ts api (first :: rest)) ps >>= matchResult doc) = ok x := by
  have h₀ := h
  simp only [parseRoute, okOr_some, List.head?_cons, ok_bind, bind_index_route] at h
  obtain ⟨api, hg, h⟩ := bind_eq_ok.1 h
  obtain ⟨pv, hpv, h⟩ := bind_eq_ok.1 h
  obtain ⟨ps, hps, h⟩ := bind_eq_ok.1 h
  obtain ⟨dv, hdv, h⟩ := bind_eq_ok.1 h
  obtain ⟨doc, hdoc, -⟩ := bind_eq_ok.1 h
  have hp : api.get "PATH" = some (.array ps) := by
    rw [Value.index_eq_ok.1 hpv, ← Value.asArray_eq_some.1 (expect_eq_ok.1 hps)]
  have hd : api.get "DOC" = some (.string doc) := by
    rw [Value.index_eq_ok.1 hdv, ← Value.asStr_eq_some.1 (expect_eq_ok.1 hdoc)]
  rw [parseRoute_eq_match (expect_eq_ok.1 hg) hp hd] at h₀
  exact ⟨api, ps, doc, expect_eq_ok.1 hg, hp, hd, h₀⟩

/-- A path a group of `api["route"]` declares is registered, with the group's flag. -/
theorem mem_initServer_of_declares {cfg : Value} {groups : List (String × Value)}
    (hr : cfg.get "route" = some (.table groups)) {routes : List Route}
    (h : initServer cfg = ok routes) {kg : String × Value} (hkg : kg ∈ groups) {path : String}
    (hd : DeclaresPath kg.2 path) : ∃ w, webSocketFlag kg.2 = ok w ∧ ⟨path, w⟩ ∈ routes := by
  obtain ⟨rss, hrss, rfl⟩ := (initServer_eq_ok hr).1 h
  obtain ⟨rs, hrs⟩ := ok_of_traverse hrss kg hkg
  obtain ⟨w, hw, -⟩ := bind_eq_ok.1 hrs
  exact ⟨w, hw, List.mem_flatten.2 ⟨rs, (mem_traverse_iff hrss).2 ⟨kg, hkg, hrs⟩,
    (mem_groupRoutes_iff hrs).2 ⟨hw, hd⟩⟩⟩

end Sound

/-- **What an `Ok` of `parse_route` means, on every configuration.** An `Ok (p, B)` names a
string `p` of the `PATH` array of the group the request's first segment selects, which the
request fully matches; `B` binds each key as `specBinding` says; and when `init_server` started
with the configuration, it registered `p`, with the group's `WEB_SOCKET` flag. -/
theorem parse_route_ok_sound (ts : SegmentTypes τ ν) {cfg : Value} {segs : List String}
    {p : String} {B : Bindings τ ν} (h : parseRoute ts cfg (some segs) = .ok (p, B)) :
    ∃ g ps, routeGroup cfg (segs.headD "") = some g ∧ g.get "PATH" = some (.array ps) ∧
      .string p ∈ ps ∧ FullMatch ts g segs p ∧ (∀ x, B.lookup x = specBinding ts g segs p x) ∧
      ∀ routes, initServer cfg = .ok routes →
        ∃ w, webSocketFlag g = .ok w ∧ (⟨p, w⟩ : Route) ∈ routes := by
  cases segs with
  | nil => cases h
  | cons first rest =>
    obtain ⟨g, ps, doc, hg, hp, -, h⟩ := parseRoute_eq_ok h
    obtain ⟨as, has, hm⟩ := bind_eq_ok.1 h
    obtain ⟨a, hf, hx⟩ := matchResult_eq_ok.1 hm
    obtain ⟨rfl, rfl⟩ := Prod.mk.inj hx
    have ha := List.mem_filter.1 (hf ▸ List.mem_singleton_self a)
    have hrun := altRun_of_mem has ha.1
    have hmem : Value.string a.pattern ∈ ps := by
      obtain ⟨pv, hpv, hpa⟩ := mem_of_traverse has ha.1
      rwa [← altRun_pattern hpa]
    refine ⟨g, ps, hg, hp, hmem, (altRun_fullMatch_iff hrun).1 ha.2,
      altRun_bindings_lookup hrun ha.2, fun routes hinit => ?_⟩
    -- `api["route"]` is a table holding the group
    obtain ⟨routesV, hr, hgk⟩ := Option.bind_eq_some.1 hg
    cases routesV with
    | table groups =>
      exact mem_initServer_of_declares hr hinit (Value.mem_of_lookup hgk) (.inr ⟨ps, hp, hmem⟩)
    | _ => cases hgk

/-- `getinfo/true` is answered by `getinfo/:verbose`, a route `init_server` registers. -/
theorem parse_route_ok_sound_info :
    ∃ B, parseRoute sampleTypes infoApi (some ["getinfo", "true"]) =
      .ok ("getinfo/:verbose", B) ∧ ∃ w, webSocketFlag infoGroup = .ok w ∧
        (⟨"getinfo/:verbose", w⟩ : Route) ∈
          [⟨"getinfo/all", false⟩, ⟨"getinfo/:verbose", false⟩] := by
  obtain ⟨B, hB⟩ : ∃ B, parseRoute sampleTypes infoApi (some ["getinfo", "true"]) =
      .ok ("getinfo/:verbose", B) := ⟨_, rfl⟩
  obtain ⟨g, ps, hg, -, -, -, -, hreg⟩ := parse_route_ok_sound sampleTypes hB
  cases Option.some.inj (hg.symm.trans rfl : some g = some infoGroup)
  exact ⟨B, hB, hreg _ rfl⟩

end CapeWallet
