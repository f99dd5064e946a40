import CapeWallet.Spec.Match
import CapeWallet.Server

/-!
# What `parse_route` returns as its error

The two sources of an `Err` of `parse_route` (`wallet/src/main.rs:92-211`) on a request: the
message of `UrlSegmentType::from_str`, returned early by the `?` of line 136, and the trace
`arg_doc` of a failed match (lines 197-209).

* `fullMatchCount`: the number of alternatives that fully match, repeated entries counted apart
  (`matching_route_count` after the loop).
* `TraceSections`: the text each alternative adds to the trace starts with its heading
  (`Route: p`) and ends with its verdict (`Route matches request` exactly for a full match).
* `failureTrace doc sections n`: the trace with `n ≠ 1` full matches: `DOC`, the sections, and
  the line of line 199 (`Need documentation`) or of line 206 (`Ambiguity in api.toml`).

Results:
* `parse_route_err_source`: every `Err` of `parse_route` is the message `from_str` gives for the
  type that a key segment of some alternative names, or the trace of a failed match.
* `parseRoute_failureTrace`: on a well-formed group where `from_str` rejects no type name, a
  request with `n ≠ 1` full matches gets `failureTrace` with `n`.
* `init_server_accepts_unknown_type`: `init_server` reads no type name, so a placeholder whose
  type `from_str` rejects reaches `parse_route`, which returns the `from_str` message.
-/

namespace CapeWallet

open Outcome

variable {τ ν : Type}

/-- The number of full matches among the alternatives `paths` (`matching_route_count`). -/
def fullMatchCount (ts : SegmentTypes τ ν) (api : Value) (r paths : List String) : Nat :=
  paths.countP fun p => decide (FullMatch ts api r p)

/-- The text of each alternative in the trace: its heading first, its verdict last. -/
def TraceSections (ts : SegmentTypes τ ν) (api : Value) (r paths sections : List String) :
    Prop :=
  List.Forall₂ (fun p sec => ∃ body, sec = routeDoc p ++ body ++
    matchDoc p (decide (FullMatch ts api r p))) paths sections

/-- The trace of a failed match with `n` full matches, the group's documentation being
`doc`. -/
def failureTrace (doc : String) (sections : List String) (n : Nat) : String :=
  doc ++ String.join sections ++
    if n = 0 then "\nNeed documentation" else "\nAmbiguity in api.toml"

variable {ts : SegmentTypes τ ν} {api : Value} {r : List String}

/-! ## The early return -/

/-- A segment's only `Err` is the one `from_str` gives for the type name its key maps to. -/
theorem segmentEffect_eq_err {s x e : String} (h : segmentEffect ts api s x = err e) :
    ∃ t, (api.get s).bind Value.asStr = some t ∧ ts.fromStr t = .error e := by
  unfold segmentEffect at h
  rcases hg : api.get s with _ | v <;> simp only [hg] at h
  · split_ifs at h
  · rcases hv : v.asStr with _ | t <;> simp only [hv] at h
    · cases h
    · refine ⟨t, by simp [hv], ?_⟩
      rcases hf : ts.fromStr t with e' | ty <;> simp only [hf] at h
      · cases h; rfl
      · split at h <;> cases h

/-- An alternative's only `Err` is that of a key segment of it. -/
theorem altRun_eq_err {pv : Value} {e : String} (h : altRun ts api r pv = err e) :
    ∃ p, pv = .string p ∧ ∃ s ∈ splitSlash p, ∃ t,
      (api.get s).bind Value.asStr = some t ∧ ts.fromStr t = .error e := by
  rcases hp : pv.asStr with _ | p
  · simp [altRun, hp, unwrap] at h
  · simp only [altRun, hp, unwrap_some, ok_bind] at h
    rcases bind_eq_err.1 h with hes | ⟨es, -, h⟩
    · obtain ⟨⟨s, x⟩, hx, hsx⟩ := err_of_traverse hes
      exact ⟨p, Value.asStr_eq_some.1 hp, s, mem_pairUp_fst hx, segmentEffect_eq_err hsx⟩
    · cases h

/-! ## The trace -/

/-- The section of an alternative's run. -/
theorem altRun_doc {p : String} {a : AltRun τ ν} (h : altRun ts api r (.string p) = ok a) :
    ∃ body, a.doc = routeDoc p ++ body ++ matchDoc p (decide (FullMatch ts api r p)) := by
  have hfm : a.fullMatch = decide (FullMatch ts api r p) := by
    rw [Bool.eq_iff_iff, decide_eq_true_iff]
    exact altRun_fullMatch_iff h
  obtain ⟨es, -, rfl⟩ := altRun_string_eq_ok.1 h
  exact ⟨_, by rw [AltRun.doc, hfm, String.append_assoc (routeDoc p)]⟩

/-- The runs of the alternatives `paths` give their sections of the trace, and their full matches
are as many as `fullMatchCount` says. -/
theorem runs_trace {paths : List String} {as : List (AltRun τ ν)}
    (h : List.Forall₂ (fun p a => altRun ts api r (.string p) = ok a) paths as) :
    TraceSections ts api r paths (as.map (·.doc)) ∧
      (as.filter (·.fullMatch)).length = fullMatchCount ts api r paths := by
  refine ⟨List.forall₂_map_right_iff.2 (h.imp fun _ _ => altRun_doc), ?_⟩
  rw [fullMatchCount, List.countP_eq_length_filter, ← filter_fullMatch_map h, List.length_map]

/-- The runs of an array of alternatives that all run: the array holds their patterns. -/
theorem eq_map_pattern_of_traverse {ps : List Value} {as : List (AltRun τ ν)}
    (h : traverseList (altRun ts api r) ps = ok as) : ps = (as.map (·.pattern)).map .string := by
  induction traverse_eq_ok.1 h with
  | nil => rfl
  | cons hpa hrest ih =>
    rw [List.map_cons, List.map_cons, altRun_pattern hpa, ih (traverse_eq_ok.2 hrest)]

theorem matchResult_eq_err {doc e : String} {as : List (AltRun τ ν)} :
    matchResult doc as = err e ↔ (as.filter (·.fullMatch)).length ≠ 1 ∧
      e = failureTrace doc (as.map (·.doc)) (as.filter (·.fullMatch)).length := by
  unfold matchResult failureTrace
  rcases h : as.filter (·.fullMatch) with _ | ⟨a, _ | ⟨b, l⟩⟩ <;> simp [h, eq_comm]

/-! ## `parse_route` -/

variable {state : Value} {first : String} {rest : List String}

/-- An `Err` of `parse_route` on a request comes after the lookups of the group, of its `PATH`
array and of its `DOC` string, from the alternatives' runs or from `matchResult`. -/
theorem parseRoute_eq_err {e : String} (h : parseRoute ts state (some (first :: rest)) = err e) :
    ∃ api ps doc, routeGroup state first = some api ∧ api.get "PATH" = some (.array ps) ∧
      api.get "DOC" = some (.string doc) ∧
      (traverseList (altRun ts api (first :: rest)) ps >>= matchResult doc) = err e := by
  have h₀ := h
  simp only [parseRoute, okOr_some, List.head?_cons, ok_bind] at h
  obtain ⟨routes, hr, h⟩ := (bind_eq_err.1 h).resolve_left Value.index_ne_err
  obtain ⟨api, ha, h⟩ := (bind_eq_err.1 h).resolve_left Value.index_ne_err
  obtain ⟨pv, hpv, h⟩ := (bind_eq_err.1 h).resolve_left Value.index_ne_err
  obtain ⟨ps, hps, h⟩ := (bind_eq_err.1 h).resolve_left expect_ne_err
  obtain ⟨dv, hdv, h⟩ := (bind_eq_err.1 h).resolve_left Value.index_ne_err
  obtain ⟨doc, hdoc, -⟩ := (bind_eq_err.1 h).resolve_left expect_ne_err
  have hg : routeGroup state first = some api :=
    Option.bind_eq_some.2 ⟨routes, Value.index_eq_ok.1 hr, Value.index_eq_ok.1 ha⟩
  have hp : api.get "PATH" = some (.array ps) := by
    rw [Value.index_eq_ok.1 hpv, ← Value.asArray_eq_some.1 (expect_eq_ok.1 hps)]
  have hd : api.get "DOC" = some (.string doc) := by
    rw [Value.index_eq_ok.1 hdv, ← Value.asStr_eq_some.1 (expect_eq_ok.1 hdoc)]
  rw [parseRoute_eq_match hg hp hd] at h₀
  exact ⟨api, ps, doc, hg, hp, hd, h₀⟩

/-- **Where every `Err` of `parse_route` comes from.** On a request whose first segment is
`first`, an `Err` is returned from a group with a string `DOC`, and it is one of the two:
the message `from_str` gives for the type name of a key segment of some alternative (the early
return of line 136); or, when every alternative is a string and runs to its end, the trace of a
failed match: `DOC`, one section per alternative in order, and the closing line for no full match
or for two or more. -/
theorem parse_route_err_source (ts : SegmentTypes τ ν) (rest : List String) {e : String}
    (h : parseRoute ts state (some (first :: rest)) = err e) :
    ∃ api doc, routeGroup state first = some api ∧ api.get "DOC" = some (.string doc) ∧
      ((∃ ps, api.get "PATH" = some (.array ps) ∧ ∃ p, .string p ∈ ps ∧ ∃ s ∈ splitSlash p,
          ∃ t, (api.get s).bind Value.asStr = some t ∧ ts.fromStr t = .error e) ∨
        ∃ paths, api.get "PATH" = some (.array (paths.map .string)) ∧ ∃ sections,
          TraceSections ts api (first :: rest) paths sections ∧
          fullMatchCount ts api (first :: rest) paths ≠ 1 ∧
          e = failureTrace doc sections (fullMatchCount ts api (first :: rest) paths)) := by
  obtain ⟨api, ps, doc, hg, hp, hd, h⟩ := parseRoute_eq_err h
  refine ⟨api, doc, hg, hd, ?_⟩
  rcases bind_eq_err.1 h with hrun | ⟨as, has, hm⟩
  · -- an alternative returned early
    obtain ⟨pv, hpv, hrun⟩ := err_of_traverse hrun
    obtain ⟨p, rfl, hkey⟩ := altRun_eq_err hrun
    exact .inl ⟨ps, hp, p, hpv, hkey⟩
  · -- every alternative ran: the decision failed
    have hps := eq_map_pattern_of_traverse has
    subst hps
    obtain ⟨hsec, hcount⟩ := runs_trace (List.forall₂_map_left_iff.1 (traverse_eq_ok.1 has))
    rw [matchResult_eq_err, hcount] at hm
    exact .inr ⟨_, hp, _, hsec, hm⟩

/-- `getbalance` alone: an `Err`, from the `getbalance` group and its `DOC`. -/
theorem parse_route_err_source_getbalance :
    ∃ e, parseRoute sampleTypes (balanceApi (balancePaths.map .string)) (some ["getbalance"]) =
      err e ∧ ∃ api doc, routeGroup (balanceApi (balancePaths.map .string)) "getbalance" =
        some api ∧ api.get "DOC" = some (.string doc) := by
  obtain ⟨e, he⟩ : ∃ e, parseRoute sampleTypes (balanceApi (balancePaths.map .string))
      (some ["getbalance"]) = err e := ⟨_, rfl⟩
  obtain ⟨api, doc, hg, hd, -⟩ := parse_route_err_source sampleTypes [] he
  exact ⟨e, he, api, doc, hg, hd⟩

variable {paths : List String} {doc : String}

/-- On a well-formed group where no type name is rejected, a request with `n ≠ 1` full matches
gets the trace with `n`. -/
theorem parseRoute_failureTrace (rest : List String) (hg : routeGroup state first = some api)
    (hwf : WellFormedGroup api paths doc) (hacc : ¬ RejectsType ts api paths) :
    ∃ sections, TraceSections ts api (first :: rest) paths sections ∧
      (fullMatchCount ts api (first :: rest) paths ≠ 1 →
        parseRoute ts state (some (first :: rest)) =
          err (failureTrace doc sections (fullMatchCount ts api (first :: rest) paths))) := by
  obtain ⟨as, has⟩ := traverse_ok_of_accepts (r := first :: rest) hwf hacc
  obtain ⟨hsec, hcount⟩ := runs_trace (List.forall₂_map_left_iff.1 (traverse_eq_ok.1 has))
  refine ⟨_, hsec, fun hc => ?_⟩
  rw [parseRoute_eq_match hg hwf.path hwf.doc, has, ok_bind, matchResult_eq_err, hcount]
  exact ⟨hc, rfl⟩

/-! ## `init_server` reads no type name -/

/-- A configuration whose one alternative has a placeholder of a type `from_str` rejects. -/
def unknownTypeApi : Value :=
  .table [("route", .table [("a", .table [("PATH", .array [.string "a/:x"]),
    ("DOC", .string "d"), (":x", .string "Bogus")])])]

/-- `init_server` starts with a placeholder of an unknown type, and `parse_route` answers a
request for its route with the message of `from_str`, not with the trace. -/
theorem init_server_accepts_unknown_type :
    initServer unknownTypeApi = .ok [⟨"a/:x", false⟩] ∧
      parseRoute sampleTypes unknownTypeApi (some ["a", "v"]) =
        err "Matching variant not found" :=
  ⟨rfl, rfl⟩

end CapeWallet
