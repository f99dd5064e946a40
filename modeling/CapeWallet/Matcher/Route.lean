import CapeWallet.Matcher.Alternative

/-!
# `parse_route`, alternative by alternative

`parse_route_eq` takes `parse_route` apart: once the request's first segment selects a group
whose `PATH` is an array and whose `DOC` is a string, the function runs `altRun` on every
alternative in order (stopping at the first `Err` or panic), and then decides on the list of
results alone (`routeResult_applyAll`):

* no full match: `Err`, the group's `DOC` followed by every alternative's text and
  `"\nNeed documentation"`;
* exactly one, `a`: `Ok (a.pattern, a.bindings)`, the bindings of that alternative alone;
* two or more: `Err`, the same text followed by `"\nAmbiguity in api.toml"`.

The bindings of all alternatives share one map keyed by pattern string, and `matching_route`
is the last match. Neither leaks into the result: alternatives with one pattern string run
alike (`Coherent`), so a unique full match is the only alternative with its string. The decision
(`matchResult`) reads only the list of full matches, so it keeps its `Ok` under any
reordering of the runs (`matchResult_perm`).
-/

namespace CapeWallet

open Outcome

variable {τ ν : Type} {ts : SegmentTypes τ ν} {api : Value}

/-- The locals of `parse_route` after the alternatives `as`, in order. -/
def AltRun.applyAll (rs : RouteState τ ν) (as : List (AltRun τ ν)) : RouteState τ ν :=
  as.foldl (fun rs a => a.apply rs) rs

theorem routeLoop_eq (pathSegments : List String) (ps : List Value) (rs : RouteState τ ν) :
    ps.foldlM (routeStep ts api pathSegments) rs =
      (AltRun.applyAll rs) <$> traverseList (altRun ts api pathSegments) ps :=
  foldlM_eq_traverse _ (fun (rs : RouteState τ ν) (a : AltRun τ ν) => a.apply rs)
    (routeStep_eq pathSegments) ps rs

/-! ## The locals after the loop over `PATH` -/

section Fold

variable {rs : RouteState τ ν} {as : List (AltRun τ ν)}

@[simp] theorem applyAll_argDoc' :
    (AltRun.applyAll rs as).argDoc = rs.argDoc ++ String.join (as.map (·.doc)) := by
  induction as generalizing rs with
  | nil => simp [AltRun.applyAll]
  | cons a as ih =>
    simp only [AltRun.applyAll, List.foldl_cons, List.map_cons] at ih ⊢
    rw [ih, AltRun.apply_argDoc, string_join_cons, String.append_assoc]

@[simp] theorem applyAll_matchingRouteCount :
    (AltRun.applyAll rs as).matchingRouteCount =
      rs.matchingRouteCount + as.countP (·.fullMatch) := by
  induction as generalizing rs with
  | nil => rfl
  | cons a as ih =>
    simp only [AltRun.applyAll, List.foldl_cons, List.countP_cons] at ih ⊢
    rw [ih, AltRun.apply_matchingRouteCount]
    split <;> omega

theorem applyAll_matchingRoute :
    (AltRun.applyAll rs as).matchingRoute =
      (((as.filter (·.fullMatch)).getLast?).map (·.pattern)).getD rs.matchingRoute := by
  induction as generalizing rs with
  | nil => rfl
  | cons a as ih =>
    simp only [AltRun.applyAll, List.foldl_cons] at ih ⊢
    rw [ih]
    by_cases ha : a.fullMatch
    · rcases h : (as.filter (·.fullMatch)).getLast? <;>
        simp [List.filter_cons, ha, h, List.getLast?_cons]
    · simp [List.filter_cons, ha]

/-- The binding map of pattern `q` after the insertions of one alternative of pattern `p`. -/
theorem lookup_foldl_entryInsert (p q : String) (binds : List (RouteBinding τ ν))
    (m : PatternBindings τ ν) :
    ((binds.foldl (fun m rb => entryInsert m p rb) m).lookup q).getD ∅ =
      if p = q then binds.foldl (fun b rb => b.insert rb.parameter rb) ((m.lookup q).getD ∅)
      else (m.lookup q).getD ∅ := by
  induction binds generalizing m with
  | nil => simp
  | cons rb binds ih =>
    rw [List.foldl_cons, ih]
    by_cases hpq : p = q
    · subst hpq; simp [entryInsert, AList.lookup_insert]
    · simp [entryInsert, hpq, AList.lookup_insert_ne (Ne.symm hpq)]

theorem applyAll_bindings_lookup (q : String) :
    (((AltRun.applyAll rs as).bindings.lookup q).getD ∅) =
      (as.filter (·.pattern = q)).foldl
        (fun b a => a.binds.foldl (fun b rb => b.insert rb.parameter rb) b)
        ((rs.bindings.lookup q).getD ∅) := by
  induction as generalizing rs with
  | nil => rfl
  | cons a as ih =>
    simp only [AltRun.applyAll, List.foldl_cons] at ih ⊢
    rw [ih, AltRun.apply_bindings, lookup_foldl_entryInsert]
    by_cases h : a.pattern = q <;> simp [List.filter_cons, h]

end Fold

/-! ## The closing `match` -/

/-- Alternatives with one pattern string are one and the same run. -/
def Coherent (as : List (AltRun τ ν)) : Prop :=
  ∀ a ∈ as, ∀ b ∈ as, a.pattern = b.pattern → a = b

/-- A unique full match is the only alternative with its pattern string. -/
theorem filter_pattern_eq_singleton {as : List (AltRun τ ν)} (hc : Coherent as) {a : AltRun τ ν}
    (hf : as.filter (·.fullMatch) = [a]) : as.filter (·.pattern = a.pattern) = [a] := by
  have ha : a ∈ as := (List.mem_filter.1 (hf ▸ List.mem_singleton_self a)).1
  have hfm : a.fullMatch = true := (List.mem_filter.1 (hf ▸ List.mem_singleton_self a)).2
  have hsame : ∀ b ∈ as.filter (·.pattern = a.pattern), b = a := fun b hb => by
    rw [List.mem_filter] at hb
    exact hc b hb.1 a ha (by simpa using hb.2)
  have hlen : (as.filter (·.pattern = a.pattern)).length ≤ 1 := by
    rw [← List.countP_eq_length_filter, ← List.length_singleton (a := a), ← hf,
      ← List.countP_eq_length_filter]
    refine List.countP_mono_left fun b hb hp => ?_
    rw [hc b hb a ha (by simpa using hp)]
    exact hfm
  have hmem : a ∈ as.filter (·.pattern = a.pattern) := List.mem_filter.2 ⟨ha, by simp⟩
  rw [List.eq_replicate_iff.2 ⟨rfl, hsame⟩, le_antisymm hlen (List.length_pos_of_mem hmem)]
  rfl

/-- The decision `parse_route` takes on the runs `as` of its alternatives, the group's
documentation being `doc`. -/
def matchResult (doc : String) (as : List (AltRun τ ν)) : Outcome String (String × Bindings τ ν) :=
  match as.filter (·.fullMatch) with
  | [] => err (doc ++ String.join (as.map (·.doc)) ++ "\nNeed documentation")
  | [a] => ok (a.pattern, a.bindings)
  | _ :: _ :: _ => err (doc ++ String.join (as.map (·.doc)) ++ "\nAmbiguity in api.toml")

theorem matchResult_eq_ok {doc : String} {as : List (AltRun τ ν)} {x : String × Bindings τ ν} :
    matchResult doc as = ok x ↔ ∃ a, as.filter (·.fullMatch) = [a] ∧ x = (a.pattern, a.bindings) := by
  unfold matchResult
  rcases h : as.filter (·.fullMatch) with _ | ⟨a, _ | ⟨b, l⟩⟩ <;> simp [h, eq_comm]

theorem matchResult_returns (doc : String) (as : List (AltRun τ ν)) :
    (matchResult doc as).Returns := by
  unfold matchResult
  split <;> trivial

/-- **The result of `parse_route` from the alternatives' runs alone.** -/
theorem routeResult_applyAll (doc : String) {as : List (AltRun τ ν)} (hc : Coherent as) :
    routeResult (AltRun.applyAll ⟨doc, 0, "", ∅⟩ as) = matchResult doc as := by
  unfold routeResult matchResult
  rw [applyAll_matchingRouteCount, List.countP_eq_length_filter, Nat.zero_add,
    applyAll_matchingRoute, applyAll_bindings_lookup]
  rcases h : as.filter (·.fullMatch) with _ | ⟨a, _ | ⟨b, l⟩⟩
  · simp [h]
  · simp only [h, List.getLast?_singleton, Option.map_some', Option.getD_some,
      List.length_singleton]
    rw [filter_pattern_eq_singleton hc h]
    simp [AltRun.bindings]
  · simp [h]

/-! ## `parse_route` -/

/-- The route group the request's first segment selects, `api["route"][first_segment]`, where
both lookups succeed. -/
def routeGroup (state : Value) (firstSegment : String) : Option Value :=
  (state.get "route").bind (·.get firstSegment)

/-- Only a string alternative runs, and its run keeps the string. -/
theorem altRun_pattern {pathSegments : List String} {routePattern : Value} {a : AltRun τ ν}
    (h : altRun ts api pathSegments routePattern = ok a) : routePattern = .string a.pattern := by
  obtain ⟨p, hp, h⟩ := bind_eq_ok.1 h
  obtain ⟨es, -, h⟩ := bind_eq_ok.1 h
  cases h
  exact Value.asStr_eq_some.1 (expect_eq_ok.1 hp)

theorem coherent_of_traverse {pathSegments : List String} {ps : List Value}
    {as : List (AltRun τ ν)} (h : traverseList (altRun ts api pathSegments) ps = ok as) :
    Coherent as := by
  intro a ha b hb hab
  obtain ⟨pa, -, hpa⟩ := mem_of_traverse h ha
  obtain ⟨pb, -, hpb⟩ := mem_of_traverse h hb
  have : pa = pb := by rw [altRun_pattern hpa, altRun_pattern hpb, hab]
  subst this
  exact ok.inj (hpa.symm.trans hpb)

/-- After the loop, the closing `match` decides as `matchResult` does. -/
theorem traverse_bind_routeResult (pathSegments : List String) (ps : List Value) (doc : String) :
    (traverseList (altRun ts api pathSegments) ps >>= fun as =>
      routeResult (AltRun.applyAll ⟨doc, 0, "", ∅⟩ as)) =
      traverseList (altRun ts api pathSegments) ps >>= matchResult doc := by
  rcases h : traverseList (altRun ts api pathSegments) ps with as | e | m
  · exact routeResult_applyAll doc (coherent_of_traverse h)
  · rfl
  · rfl

variable {state : Value} {firstSegment : String} {rest : List String} {ps : List Value}
  {doc : String}

/-- `parse_route` on a request whose first segment selects a group with an array `PATH`: the
`DOC` lookup, then every alternative's run, then `matchResult`. -/
theorem parseRoute_eq (hg : routeGroup state firstSegment = some api)
    (hp : api.get "PATH" = some (.array ps)) :
    parseRoute ts state (some (firstSegment :: rest)) =
      api.index "DOC" >>= fun d => expect d.asStr "Missing DOC" >>= fun doc =>
        traverseList (altRun ts api (firstSegment :: rest)) ps >>= matchResult doc := by
  obtain ⟨routes, hr, hf⟩ := Option.bind_eq_some.1 hg
  simp only [parseRoute, Value.index, hr, hf, hp, okOr_some, List.head?_cons, expect_some,
    ok_bind, Value.asArray_array, routeLoop_eq, map_bind, traverse_bind_routeResult]

/-- **`parse_route` decides on the runs of the alternatives.** Each alternative runs on its own,
in declaration order; the first `Err` or panic among them is the result. Otherwise
`matchResult` decides on the list of runs. -/
theorem parseRoute_eq_match (hg : routeGroup state firstSegment = some api)
    (hp : api.get "PATH" = some (.array ps)) (hd : api.get "DOC" = some (.string doc)) :
    parseRoute ts state (some (firstSegment :: rest)) =
      traverseList (altRun ts api (firstSegment :: rest)) ps >>= matchResult doc := by
  rw [parseRoute_eq hg hp]
  simp [Value.index, hd]

end CapeWallet
