import CapeWallet.Spec.Trace

/-!
# What the server answers

The configurations `init_server` starts with, and what a request that tide routes to
`entry_page` or `handle_web_socket` gets from `parse_route` and from the handler.

* `ServableGroup k g`: the group `g` under the key `k` has the shape `parse_route` relies on
  (`WellFormedGroup`), and each of its alternatives starts with `k`, a segment that is no
  parameter and no wildcard, so that a request routed to one of its routes selects `g` again.
  `ServableApi`: `api["route"]` is a table of such groups. `init_server` checks none of it.

Every statement here is about the routes `init_server` registers from `api["route"]`
(`initServer`); the fixed routes of lines 260-263 are left out (`Server.lean`).

Results:
* `parse_route_no_panic`: on a servable configuration that `init_server` accepts, a request that
  is an instance of a route it registered, or that tide routes to one, gets `Ok` or `Err` from
  `parse_route`, never a panic.
* `init_server_accepts_undocumented`: `init_server` starts with a group without `DOC`, and
  `parse_route` panics on a request tide routes to it.
* `handlers_on_failed_match`: with no full match, or with two or more, `entry_page` answers
  `200` with the trace as body and `handle_web_socket` a `400` error with the trace as message;
  the two cases differ only in the trace's last line.
* `entry_page_answers_failure_ok`: `entry_page` answers a request that tide routes to a
  registered route, and that matches no alternative, with status `200`.
-/

namespace CapeWallet

open Outcome

variable {τ ν : Type}

/-- The group `g` under the key `k` is one that `parse_route` serves: well formed, and each
alternative starts with the segment `k`, a literal. -/
def ServableGroup (k : String) (g : Value) : Prop :=
  isLiteral k = true ∧
    ∃ paths doc, WellFormedGroup g paths doc ∧ ∀ p ∈ paths, (splitSlash p).head? = some k

/-- `api["route"]` is a table of servable groups. -/
def ServableApi (cfg : Value) : Prop :=
  ∃ groups, cfg.get "route" = some (.table groups) ∧ ∀ kg ∈ groups, ServableGroup kg.1 kg.2

/-! ## The routes `init_server` registers -/

/-- The group `v` declares the route `path`: as its `PATH` string, or as a string of its `PATH`
array. -/
def DeclaresPath (v : Value) (path : String) : Prop :=
  v.get "PATH" = some (.string path) ∨ ∃ a, v.get "PATH" = some (.array a) ∧ .string path ∈ a

theorem webSocketFlag_ne_err {v : Value} {e : String} : webSocketFlag v ≠ err e := by
  unfold webSocketFlag
  split
  · exact expect_ne_err
  · simp

theorem groupRoutes_ne_err {v : Value} {e : String} : groupRoutes v ≠ err e := by
  intro h
  rcases bind_eq_err.1 h with h | ⟨w, -, h⟩
  · exact webSocketFlag_ne_err h
  rcases bind_eq_err.1 h with h | ⟨p, -, h⟩
  · exact Value.index_ne_err h
  rcases bind_eq_err.1 h with h | ⟨rs, -, h⟩
  · cases p <;> simp [pathRoutes] at h
  · cases h

/-- The routes of one group: its declared paths, with its `WEB_SOCKET` flag. -/
theorem mem_groupRoutes_iff {v : Value} {rs : List Route} (h : groupRoutes v = ok rs)
    {route : Route} :
    route ∈ rs ↔ webSocketFlag v = ok route.webSocket ∧ DeclaresPath v route.path := by
  obtain ⟨w, hw, h⟩ := bind_eq_ok.1 h
  obtain ⟨p, hp, h⟩ := bind_eq_ok.1 h
  obtain ⟨ps, hps, h⟩ := bind_eq_ok.1 h
  cases h
  obtain ⟨path, webSocket⟩ := route
  rw [Value.index_eq_ok] at hp
  simp only [List.mem_map, hw, ok.injEq, DeclaresPath, hp, Option.some.injEq, Route.mk.injEq]
  cases p <;> simp only [pathRoutes, pure_eq, ok.injEq, reduceCtorEq] at hps <;> subst hps
  · simp [and_comm, eq_comm]
  · simp [List.mem_filterMap, Value.asStr_eq_some]
    exact ⟨fun ⟨_, h, rfl, hw⟩ => ⟨hw, h⟩, fun ⟨hw, h⟩ => ⟨_, h, rfl, hw⟩⟩

/-- What `init_server` returns on a table of groups: the routes of each group, in order. -/
theorem initServer_eq_ok {cfg : Value} {groups : List (String × Value)}
    (hr : cfg.get "route" = some (.table groups)) {routes : List Route} :
    initServer cfg = ok routes ↔
      ∃ rss, traverseList (fun kg => groupRoutes kg.2) groups = ok rss ∧ rss.flatten = routes := by
  simp only [initServer, Value.index, hr, expect_some, ok_bind, Value.asTable, map_eq_ok]

/-- The routes of a group whose `PATH` is an array of strings are its alternatives. -/
theorem mem_groupRoutes {v : Value} {paths : List String}
    (hp : v.get "PATH" = some (.array (paths.map .string))) {rs : List Route}
    (h : groupRoutes v = ok rs) {route : Route} (hr : route ∈ rs) : route.path ∈ paths := by
  obtain ⟨-, hd | ⟨a, ha, hpa⟩⟩ := (mem_groupRoutes_iff h).1 hr
  · rw [hp] at hd
    cases hd
  · rw [hp] at ha
    cases ha
    simpa using hpa

/-- Each route `init_server` registers is one of a group of `api["route"]`. -/
theorem mem_initServer {cfg : Value} {groups : List (String × Value)}
    (hr : cfg.get "route" = some (.table groups)) {routes : List Route}
    (h : initServer cfg = ok routes) {route : Route} (hroute : route ∈ routes) :
    ∃ kg ∈ groups, ∃ rs, groupRoutes kg.2 = ok rs ∧ route ∈ rs := by
  obtain ⟨rss, hrss, rfl⟩ := (initServer_eq_ok hr).1 h
  obtain ⟨rs, hrs, hmem⟩ := List.mem_flatten.1 hroute
  obtain ⟨kg, hkg, hkr⟩ := (mem_traverse_iff hrss).1 hrs
  exact ⟨kg, hkg, rs, hkr, hmem⟩

/-- A request that is an instance of a route whose first segment is no placeholder starts with
that segment. -/
theorem isInstance_head {path k : String} {segs : List String} (h : IsInstance path segs)
    (hk : (splitSlash path).head? = some k) (hlit : isParameter k = false) :
    ∃ rest, segs = k :: rest := by
  unfold IsInstance at h
  rcases hs : splitSlash path with _ | ⟨k', ps⟩ <;> rw [hs] at h hk
  · cases hk
  · cases hk
    cases h with
    | cons hks _ =>
      rcases hks with hph | rfl
      · rw [hlit] at hph
        cases hph
      · exact ⟨_, rfl⟩

/-- A request tide routes to a route led by a literal starts with that literal. -/
theorem recognizes_head {path k : String} {segs : List String} (h : Recognizes path segs)
    (hk : (splitSlash path).head? = some k) (hlit : isLiteral k = true) :
    ∃ rest, segs = k :: rest := by
  obtain ⟨-, hpar, hwild⟩ := isLiteral_eq_true.1 hlit
  rw [Recognizes, routeSegments_of_head hk hlit] at h
  rcases hs : splitSlash path with _ | ⟨k', ps⟩ <;> rw [hs] at h hk
  · cases hk
  · cases hk
    cases segs with
    | nil => rw [matchSegments_cons_nil hwild] at h; cases h
    | cons seg rest =>
      rw [matchSegments_cons_cons hwild, hpar] at h
      simp only [Bool.false_eq_true, if_false, Bool.and_eq_true, beq_iff_eq] at h
      exact ⟨rest, by rw [h.1]⟩

/-! ## No panic -/

variable {ts : SegmentTypes τ ν} {state api : Value} {first : String} {paths : List String}
  {doc : String}

/-- `parse_route` on a request for a well-formed group returns. -/
theorem parseRoute_returns (rest : List String) (hg : routeGroup state first = some api)
    (hwf : WellFormedGroup api paths doc) : (parseRoute ts state (some (first :: rest))).Returns := by
  rw [parseRoute_eq_match hg hwf.path hwf.doc]
  exact returns_bind (returns_traverse (altRun_returns_of_wellFormed hwf))
    fun as _ => matchResult_returns doc as

/-- **No panic on a routed request.** On a configuration that `init_server` accepts and whose
groups `parse_route` can serve, every request that is an instance of a route registered from
`api["route"]`, or that tide routes to one, gets `Ok` or `Err` from `parse_route`. -/
theorem parse_route_no_panic (ts : SegmentTypes τ ν) {cfg : Value} {routes : List Route}
    (hinit : initServer cfg = .ok routes) (hcfg : ServableApi cfg) {route : Route}
    (hroute : route ∈ routes) {segs : List String}
    (hinst : IsInstance route.path segs ∨ Recognizes route.path segs) :
    (parseRoute ts cfg (some segs)).Returns := by
  obtain ⟨groups, hr, hgroups⟩ := hcfg
  obtain ⟨⟨k, g⟩, hkg, rs, hrs, hmem⟩ := mem_initServer hr hinit hroute
  obtain ⟨hlit, paths, doc, hwf, hhead⟩ := hgroups _ hkg
  have hk := hhead _ (mem_groupRoutes hwf.path hrs hmem)
  obtain ⟨rest, rfl⟩ := hinst.elim (isInstance_head · hk (isLiteral_eq_true.1 hlit).2.1)
    (recognizes_head · hk hlit)
  -- the request selects the first group under `k`, which is servable too
  obtain ⟨g', hg', hkg'⟩ := Value.lookup_of_mem hkg
  obtain ⟨-, paths', doc', hwf', -⟩ := hgroups _ hkg'
  exact parseRoute_returns rest (Option.bind_eq_some.2 ⟨_, hr, hg'⟩) hwf'

/-- The configuration with the `getbalance` group is servable. -/
theorem servable_balanceApi : ServableApi (balanceApi (balancePaths.map .string)) :=
  ⟨_, rfl, fun kg hkg => by
    obtain rfl := List.mem_singleton.1 hkg
    exact ⟨by decide, balancePaths, _, ⟨rfl, rfl, by decide⟩, by decide⟩⟩

/-- `getbalance/address/X`, which tide routes to `getbalance/address/:address`. -/
theorem parse_route_no_panic_balance :
    ServableApi (balanceApi (balancePaths.map .string)) ∧
      (parseRoute sampleTypes (balanceApi (balancePaths.map .string))
        (some ["getbalance", "address", "X"])).Returns := by
  have hroute : (⟨"getbalance/address/:address", false⟩ : Route) ∈
      [⟨"getbalance/all", false⟩, ⟨"getbalance/address/:address", false⟩,
        ⟨"getbalance/address/:address/asset/:asset", false⟩] := by decide
  have hinit : initServer (balanceApi (balancePaths.map .string)) = .ok
      [⟨"getbalance/all", false⟩, ⟨"getbalance/address/:address", false⟩,
        ⟨"getbalance/address/:address/asset/:asset", false⟩] := rfl
  exact ⟨servable_balanceApi,
    parse_route_no_panic sampleTypes hinit servable_balanceApi hroute (.inr (by decide))⟩

/-- A configuration whose one group has no `DOC`. -/
def undocumentedApi : Value :=
  .table [("route", .table [("a", .table [("PATH", .array [.string "a"])])])]

/-- `init_server` starts without `DOC`, and `parse_route` panics on a request tide routes to the
group's route. -/
theorem init_server_accepts_undocumented :
    initServer undocumentedApi = .ok [⟨"a", false⟩] ∧ IsInstance "a" ["a"] ∧
      Recognizes "a" ["a"] ∧
      parseRoute sampleTypes undocumentedApi (some ["a"]) = .panic "index not found" :=
  ⟨rfl, by decide, by decide, rfl⟩

/-! ## The answer to a failed match -/

/-- **The answer to a failed match.** On a well-formed group where `from_str` rejects no type
name, a request with no full match, or with two or more, gets from `entry_page` a `200`
response whose body is the trace, and from `handle_web_socket` a `400` error whose message is
the trace. Both statuses are the same for the two cases; only the trace's last line tells them
apart. -/
theorem handlers_on_failed_match (ts : SegmentTypes τ ν) (rest : List String)
    (dispatchUrl : String → Bindings τ ν → Outcome TideError Response)
    (dispatchWebSocket : String → Bindings τ ν → Outcome TideError Unit)
    (hg : routeGroup state first = some api) (hwf : WellFormedGroup api paths doc)
    (hacc : ¬ RejectsType ts api paths) (hc : fullMatchCount ts api (first :: rest) paths ≠ 1) :
    ∃ sections, TraceSections ts api (first :: rest) paths sections ∧
      entryPage ts dispatchUrl state (some (first :: rest)) =
        .ok ⟨200, failureTrace doc sections (fullMatchCount ts api (first :: rest) paths)⟩ ∧
      handleWebSocket ts dispatchWebSocket state (some (first :: rest)) =
        .err ⟨400, failureTrace doc sections (fullMatchCount ts api (first :: rest) paths)⟩ := by
  obtain ⟨sections, hsec, htrace⟩ := parseRoute_failureTrace rest hg hwf hacc
  exact ⟨sections, hsec, by rw [entryPage, htrace hc], by rw [handleWebSocket, htrace hc]⟩

/-- A group with two alternatives that both take any second segment. -/
def ambiguousGroup : Value :=
  .table [("PATH", .array [.string "a/:x", .string "a/:y"]), ("DOC", .string "d"),
    (":x", .string "Literal"), (":y", .string "Literal")]

/-- A configuration with the one group `a`. -/
def ambiguousApi : Value :=
  .table [("route", .table [("a", ambiguousGroup)])]

/-- `a/v` matches both alternatives: `200` from `entry_page`, `400` from `handle_web_socket`,
each with the trace closed by `Ambiguity in api.toml`. -/
theorem handlers_on_failed_match_ambiguous :
    ∃ sections, entryPage sampleTypes (fun _ _ => .ok ⟨200, ""⟩) ambiguousApi (some ["a", "v"]) =
        .ok ⟨200, failureTrace "d" sections 2⟩ ∧
      handleWebSocket sampleTypes (fun _ _ => .ok ()) ambiguousApi (some ["a", "v"]) =
        .err ⟨400, failureTrace "d" sections 2⟩ := by
  have h2 : fullMatchCount sampleTypes ambiguousGroup ["a", "v"] ["a/:x", "a/:y"] = 2 := by decide
  obtain ⟨sections, -, he, hw⟩ := handlers_on_failed_match sampleTypes ["v"]
    (fun _ _ => .ok ⟨200, ""⟩) (fun _ _ => .ok ()) (rfl : routeGroup ambiguousApi "a" = _)
    (⟨rfl, rfl, by decide⟩ : WellFormedGroup ambiguousGroup ["a/:x", "a/:y"] "d") (by decide)
    (by rw [h2]; decide)
  rw [h2] at he hw
  exact ⟨sections, he, hw⟩

/-- The `getinfo` group: `getinfo/all`, and `getinfo/:verbose` with a `Boolean` parameter. -/
def infoGroup : Value :=
  .table [("PATH", .array [.string "getinfo/all", .string "getinfo/:verbose"]),
    ("DOC", .string "Get information about the wallet."), (":verbose", .string "Boolean")]

/-- A configuration with the one group `getinfo`. -/
def infoApi : Value :=
  .table [("route", .table [("getinfo", infoGroup)])]

/-- tide routes `getinfo/maybe` to the registered route `getinfo/:verbose`, for `entry_page`;
`maybe` is no `Boolean`, so no alternative matches, and `entry_page` answers with status `200`,
whatever `dispatch_url` does. -/
theorem entry_page_answers_failure_ok :
    initServer infoApi = .ok [⟨"getinfo/all", false⟩, ⟨"getinfo/:verbose", false⟩] ∧
      Recognizes "getinfo/:verbose" ["getinfo", "maybe"] ∧
      fullMatchCount sampleTypes infoGroup ["getinfo", "maybe"]
        ["getinfo/all", "getinfo/:verbose"] = 0 ∧
      ∃ e, parseRoute sampleTypes infoApi (some ["getinfo", "maybe"]) = .err e ∧
        ∀ dispatchUrl : String → Bindings SampleType String → Outcome TideError Response,
          entryPage sampleTypes dispatchUrl infoApi (some ["getinfo", "maybe"]) = .ok ⟨200, e⟩ :=
  ⟨rfl, by decide, by decide, _, rfl, fun _ => rfl⟩

end CapeWallet
