import CapeWallet.Matcher.Route

/-!
# The matching contract

What a full match is and what it binds, stated over the pattern's segments by position, with no
reference to the loops of `parse_route`:

* `segmentMatches`: a segment that is a key of the group must parse, under the type its value
  names, the request segment at its position; any other segment must equal it.
* `FullMatch ts api r p`: the request `r` is no longer than the pattern `p`, and every segment
  of `p` matches the request segment at its position, `""` past the end of `r`.
* `specBinding ts api r p k`: the binding of `k` read at the last position of `k` in `p`.

`altRun_fullMatch_iff` and `altRun_bindings_lookup` show that one alternative's run, when it
does not stop early, computes exactly these. `canonical_pattern_round_trip`: a pattern written as
its segments joined by `/` matches exactly the requests its segments match.
-/

namespace CapeWallet

open Outcome

variable {τ ν : Type} (ts : SegmentTypes τ ν) (api : Value)

/-- One segment of a full match: a key of the group parses `reqSegment` under the type its
value names; any other segment equals `reqSegment`. -/
def segmentMatches (patSegment reqSegment : String) : Bool :=
  match api.get patSegment with
  | some v =>
    match v.asStr with
    | some t =>
      match ts.fromStr t with
      | .ok ty => (ts.parse ty reqSegment).isSome
      | .error _ => false
    | none => false
  | none => reqSegment == patSegment

/-- The pattern `p` fully matches the request segments `r`. -/
def FullMatch (r : List String) (p : String) : Prop :=
  r.length ≤ (splitSlash p).length ∧
    ∀ i < (splitSlash p).length,
      segmentMatches ts api ((splitSlash p).getD i "") (r.getD i "") = true

instance (r : List String) : DecidablePred (FullMatch ts api r) := fun _ =>
  inferInstanceAs (Decidable (_ ∧ _))

/-- The binding a key segment gives when the request segment `reqSegment` is read for it. -/
def keyBinding (patSegment reqSegment : String) : Option (RouteBinding τ ν) := do
  let t ← (api.get patSegment).bind Value.asStr
  let ty ← (ts.fromStr t).toOption
  let value ← ts.parse ty reqSegment
  pure ⟨patSegment, ty, value⟩

/-- The last position of `k` among the segments `ps`. -/
def lastIndexOf (ps : List String) (k : String) : Option Nat :=
  (List.range ps.length).reverse.find? fun i => ps.getD i "" = k

/-- The binding of the parameter `k` of pattern `p`: the type `from_str` gives its value, the
parse of the request segment at the last position of `k` in `p`. -/
def specBinding (r : List String) (p k : String) : Option (RouteBinding τ ν) :=
  (lastIndexOf (splitSlash p) k).bind fun i => keyBinding ts api k (r.getD i "")

/-- The segment is no key of the group, or a key whose value is a string. -/
def keyIsString (s : String) : Bool :=
  match api.get s with
  | some v => v.asStr.isSome
  | none => true

/-- The segment is a key whose value is a type name `from_str` rejects. -/
def rejectsKey (s : String) : Bool :=
  match api.get s with
  | some v =>
    match v.asStr with
    | some t =>
      match ts.fromStr t with
      | .error _ => true
      | .ok _ => false
    | none => false
  | none => false

variable {ts api}

/-! ## One segment -/

section Segment

variable {s x : String} {e : SegmentEffect τ ν}

theorem segmentEffect_flags (h : segmentEffect ts api s x = ok e) :
    (!e.literalMismatch && !e.parseFailed) = segmentMatches ts api s x := by
  unfold segmentEffect at h
  unfold segmentMatches
  rcases hg : api.get s with _ | v <;> simp only [hg] at h ⊢
  · split_ifs at h with hx <;> cases h <;> simp_all
  · rcases hs : v.asStr with _ | t <;> simp only [hs] at h ⊢
    · cases h
    · rcases hf : ts.fromStr t with _ | ty <;> simp only [hf] at h ⊢
      · cases h
      · rcases hp : ts.parse ty x <;> simp only [hp] at h ⊢ <;> cases h <;> rfl

theorem segmentEffect_binding (h : segmentEffect ts api s x = ok e) :
    e.binding = keyBinding ts api s x := by
  unfold segmentEffect at h
  unfold keyBinding
  rcases hg : api.get s with _ | v <;> simp only [hg] at h ⊢
  · split_ifs at h <;> cases h <;> rfl
  · rcases hs : v.asStr with _ | t <;> simp only [hs] at h ⊢
    · cases h
    · rcases hf : ts.fromStr t with _ | ty <;> simp only [hf] at h ⊢
      · cases h
      · rcases hp : ts.parse ty x <;> simp only [hp] at h ⊢ <;> cases h <;>
          simp [hs, hf, hp, Except.toOption]

theorem segmentEffect_returns (hs : keyIsString api s = true) :
    (segmentEffect ts api s x).Returns := by
  unfold keyIsString at hs
  unfold segmentEffect
  rcases hg : api.get s with _ | v <;> simp only [hg] at hs ⊢
  · split_ifs <;> trivial
  · rcases hv : v.asStr with _ | t <;> simp only [hv] at hs ⊢
    · cases hs
    · rcases hf : ts.fromStr t with _ | ty <;> simp only [hf]
      · trivial
      · rcases ts.parse ty x <;> trivial

theorem segmentEffect_ok (hs : keyIsString api s = true) (hr : rejectsKey ts api s = false) :
    ∃ e, segmentEffect ts api s x = ok e := by
  unfold keyIsString at hs
  unfold rejectsKey at hr
  unfold segmentEffect
  rcases hg : api.get s with _ | v <;> simp only [hg] at hs hr ⊢
  · split_ifs <;> exact ⟨_, rfl⟩
  · rcases hv : v.asStr with _ | t <;> simp only [hv] at hs hr ⊢
    · cases hs
    · rcases hf : ts.fromStr t with _ | ty <;> simp only [hf] at hr ⊢
      · cases hr
      · rcases ts.parse ty x <;> exact ⟨_, rfl⟩

theorem segmentEffect_err (hr : rejectsKey ts api s = true) :
    ∃ e, segmentEffect ts api s x = err e := by
  unfold rejectsKey at hr
  unfold segmentEffect
  rcases hg : api.get s with _ | v <;> simp only [hg] at hr ⊢
  · cases hr
  · rcases hv : v.asStr with _ | t <;> simp only [hv] at hr ⊢
    · cases hr
    · rcases hf : ts.fromStr t with e | ty <;> simp only [hf] at hr ⊢
      · exact ⟨e, rfl⟩
      · cases hr

/-- A key segment's binding names the segment. -/
theorem keyBinding_parameter {rb : RouteBinding τ ν} (h : keyBinding ts api s x = some rb) :
    rb.parameter = s := by
  simp only [keyBinding, Option.bind_eq_bind, Option.bind_eq_some, Option.pure_def,
    Option.some.injEq] at h
  obtain ⟨_, _, _, _, _, _, rfl⟩ := h
  rfl

end Segment

/-! ## One alternative -/

theorem pairUp_eq (ss reqs : List String) :
    pairUp ss reqs = (List.range ss.length).map fun i => (ss.getD i "", reqs.getD i "") := by
  induction ss generalizing reqs with
  | nil => rfl
  | cons s ss ih =>
    rw [pairUp, ih, List.length_cons, List.range_succ_eq_map, List.map_cons, List.map_map]
    cases reqs <;> rfl

theorem pairUp_fst (ss reqs : List String) : (pairUp ss reqs).map Prod.fst = ss := by
  induction ss generalizing reqs with
  | nil => rfl
  | cons s ss ih => simp [pairUp, ih]

theorem mem_pairUp_fst {ss reqs : List String} {x : String × String} (hx : x ∈ pairUp ss reqs) :
    x.1 ∈ ss :=
  pairUp_fst ss reqs ▸ List.mem_map_of_mem _ hx

theorem exists_mem_pairUp {ss reqs : List String} {s : String} (hs : s ∈ ss) :
    ∃ x ∈ pairUp ss reqs, x.1 = s := by
  rw [← pairUp_fst ss reqs] at hs
  simpa using hs

theorem altRun_string_eq_ok {r : List String} {p : String} {a : AltRun τ ν} :
    altRun ts api r (.string p) = ok a ↔
      ∃ es, segmentEffects ts api (pairUp (splitSlash p) r) = ok es ∧
        a = ⟨p, es, r.drop (splitSlash p).length⟩ := by
  simp only [altRun, Value.asStr_string, unwrap_some, ok_bind, bind_eq_ok, pure_eq, ok.injEq]
  exact exists_congr fun _ => and_congr_right fun _ => eq_comm

section
variable {r : List String} {p : String}

theorem altRun_returns (hs : ∀ s ∈ splitSlash p, keyIsString api s = true) :
    (altRun ts api r (.string p)).Returns := by
  refine returns_bind trivial fun _ h => ?_
  cases h
  exact returns_bind (returns_traverse fun x hx => segmentEffect_returns (hs _ (mem_pairUp_fst hx)))
    fun _ _ => trivial

theorem altRun_ok (hs : ∀ s ∈ splitSlash p, keyIsString api s = true)
    (hr : ∀ s ∈ splitSlash p, rejectsKey ts api s = false) :
    ∃ a, altRun ts api r (.string p) = ok a := by
  obtain ⟨es, hes⟩ : ∃ es, segmentEffects ts api (pairUp (splitSlash p) r) = ok es :=
    traverse_ok_of_forall fun x hx =>
    segmentEffect_ok (hs _ (mem_pairUp_fst hx)) (hr _ (mem_pairUp_fst hx))
  exact ⟨_, altRun_string_eq_ok.2 ⟨es, hes, rfl⟩⟩

theorem altRun_err (hs : ∀ s ∈ splitSlash p, keyIsString api s = true)
    (hr : ∃ s ∈ splitSlash p, rejectsKey ts api s = true) :
    ∃ e, altRun ts api r (.string p) = err e := by
  obtain ⟨s, hsp, hrs⟩ := hr
  obtain ⟨x, hx, rfl⟩ : ∃ x ∈ pairUp (splitSlash p) r, x.1 = s := exists_mem_pairUp hsp
  obtain ⟨e, he⟩ : ∃ e, segmentEffects ts api (pairUp (splitSlash p) r) = err e :=
    traverse_err (fun x hx => segmentEffect_returns (hs _ (mem_pairUp_fst hx)))
      ⟨x, hx, segmentEffect_err hrs⟩
  exact ⟨e, by simp [altRun, he]⟩

end

/-- The segments of a run pattern carry no flag exactly where they match. -/
theorem segmentEffects_flags {pairs : List (String × String)} {es : List (SegmentEffect τ ν)}
    (h : segmentEffects ts api pairs = ok es) :
    (∀ e ∈ es, e.literalMismatch = false ∧ e.parseFailed = false) ↔
      ∀ x ∈ pairs, segmentMatches ts api x.1 x.2 = true := by
  induction traverse_eq_ok.1 h with
  | nil => simp
  | @cons x e pairs es hxe hrest ih =>
    have hx := segmentEffect_flags hxe
    simp only [List.mem_cons, forall_eq_or_imp, ih (traverse_eq_ok.2 hrest), ← hx]
    cases e.literalMismatch <;> cases e.parseFailed <;> simp

/-- **A run alternative is a full match exactly when the contract says so.** -/
theorem altRun_fullMatch_iff {r : List String} {p : String} {a : AltRun τ ν}
    (h : altRun ts api r (.string p) = ok a) : a.fullMatch = true ↔ FullMatch ts api r p := by
  obtain ⟨es, hes, rfl⟩ := altRun_string_eq_ok.1 h
  have hflags := segmentEffects_flags hes
  simp only [pairUp_eq, List.mem_map, List.mem_range, forall_exists_index, and_imp,
    forall_apply_eq_imp_iff₂] at hflags
  simp only [AltRun.fullMatch, AltRun.parseFailed, AltRun.lengthMatches, AltRun.literalMismatch,
    FullMatch, ← hflags, Bool.and_eq_true, Bool.not_eq_true', List.any_eq_false,
    List.isEmpty_eq_true, List.drop_eq_nil_iff]
  constructor
  · rintro ⟨⟨hpf, hlen⟩, hlm⟩
    exact ⟨hlen, fun e he => ⟨by simpa using hlm e he, by simpa using hpf e he⟩⟩
  · rintro ⟨hlen, hes⟩
    exact ⟨⟨fun e he => by simp [(hes e he).2], hlen⟩, fun e he => by simp [(hes e he).1]⟩

/-! ## The bindings of a full match -/

theorem find?_congr_mem {α : Type} {l : List α} {P Q : α → Bool} (h : ∀ x ∈ l, P x = Q x) :
    l.find? P = l.find? Q := by
  induction l with
  | nil => rfl
  | cons x l ih =>
    simp only [List.find?_cons, h x (List.mem_cons_self _ _),
      ih fun y hy => h y (List.mem_cons_of_mem _ hy)]

/-- Inserting bindings one after the other: the last one of a key wins. -/
theorem lookup_foldl_insert (L : List (RouteBinding τ ν)) (m : Bindings τ ν) (k : String) :
    (L.foldl (fun b rb => b.insert rb.parameter rb) m).lookup k =
      (L.reverse.find? (·.parameter = k)).or (m.lookup k) := by
  induction L generalizing m with
  | nil => simp
  | cons rb L ih =>
    rw [List.foldl_cons, ih, List.reverse_cons, List.find?_append, Option.or_assoc]
    by_cases hk : rb.parameter = k
    · subst hk; simp [AList.lookup_insert]
    · simp [hk, AList.lookup_insert_ne (Ne.symm hk)]

theorem segmentEffects_binds {pairs : List (String × String)} {es : List (SegmentEffect τ ν)}
    (h : segmentEffects ts api pairs = ok es) :
    es.filterMap (·.binding) = pairs.filterMap fun x => keyBinding ts api x.1 x.2 := by
  induction traverse_eq_ok.1 h with
  | nil => rfl
  | @cons x e pairs es hxe hrest ih =>
    simp only [List.filterMap_cons, segmentEffect_binding hxe, ih (traverse_eq_ok.2 hrest)]

theorem keyBinding_isSome {s x : String} (hm : segmentMatches ts api s x = true)
    (hk : (api.get s).isSome) : (keyBinding ts api s x).isSome := by
  unfold segmentMatches at hm
  unfold keyBinding
  rcases hg : api.get s with _ | v
  · simp [hg] at hk
  · simp only [hg] at hm
    rcases hs : v.asStr with _ | t
    · simp [hs] at hm
    · rcases hf : ts.fromStr t with _ | ty
      · simp [hs, hf] at hm
      · rcases hp : ts.parse ty x with _ | value
        · simp [hs, hf, hp] at hm
        · simp [hs, hf, hp, Except.toOption]

theorem lastIndexOf_eq_some {ps : List String} {k : String} {i : Nat}
    (h : lastIndexOf ps k = some i) : i < ps.length ∧ ps.getD i "" = k :=
  ⟨by simpa using List.mem_of_find?_eq_some h,
    of_decide_eq_true (@List.find?_some _ (fun i => decide (ps.getD i "" = k)) _ _ h)⟩

theorem lastIndexOf_isSome {ps : List String} {k : String} :
    (lastIndexOf ps k).isSome ↔ k ∈ ps := by
  simp only [lastIndexOf, List.find?_isSome, List.mem_reverse, List.mem_range,
    decide_eq_true_eq]
  constructor
  · rintro ⟨i, hi, rfl⟩
    simp [hi]
  · intro hk
    obtain ⟨i, hi, rfl⟩ := List.getElem_of_mem hk
    exact ⟨i, hi, by simp [hi]⟩

theorem keyBinding_eq_none {s x : String} (h : api.get s = none) : keyBinding ts api s x = none := by
  simp [keyBinding, h]

/-- Under a full match, the parameters bound are the segments of the pattern that are keys. -/
theorem specBinding_isSome_iff {r : List String} {p k : String} (hfm : FullMatch ts api r p) :
    (specBinding ts api r p k).isSome ↔ k ∈ splitSlash p ∧ (api.get k).isSome := by
  unfold specBinding
  rcases hl : lastIndexOf (splitSlash p) k with _ | i
  · have : k ∉ splitSlash p := fun hk => by simpa [hl] using lastIndexOf_isSome.2 hk
    simp [this]
  · obtain ⟨hi, hik⟩ := lastIndexOf_eq_some hl
    have hk : k ∈ splitSlash p := lastIndexOf_isSome.1 (by simp [hl])
    simp only [Option.some_bind, hk, true_and]
    constructor
    · intro h
      rcases hg : api.get k with _ | v
      · rw [keyBinding_eq_none hg] at h
        cases h
      · rfl
    · exact keyBinding_isSome (hik ▸ hfm.2 i hi)

/-- A binding that names `k` is read at a segment `k`. -/
theorem eq_of_keyBinding_any {s x k : String}
    (h : (keyBinding ts api s x).any (·.parameter = k) = true) : s = k := by
  rcases hkb : keyBinding ts api s x with _ | rb
  · rw [hkb, Option.any_none] at h; cases h
  · rw [hkb, Option.any_some] at h
    exact (keyBinding_parameter hkb).symm.trans (of_decide_eq_true h)

/-- Where the key `k` matches, the segment binds `k` exactly when it is `k`. -/
theorem keyBinding_any_eq {s x k : String} {v : Value} (hk : api.get k = some v)
    (hm : segmentMatches ts api s x = true) :
    (keyBinding ts api s x).any (·.parameter = k) = decide (s = k) := by
  by_cases hsk : s = k
  · subst hsk
    obtain ⟨rb, hrb⟩ := Option.isSome_iff_exists.1 (keyBinding_isSome hm (by rw [hk]; rfl))
    rw [hrb, Option.any_some, keyBinding_parameter hrb]
  · rw [decide_eq_false hsk]
    exact Bool.eq_false_iff.2 (mt eq_of_keyBinding_any hsk)

/-- **A full match binds what the contract says**, key by key. -/
theorem altRun_bindings_lookup {r : List String} {p : String} {a : AltRun τ ν}
    (h : altRun ts api r (.string p) = ok a) (hm : a.fullMatch = true) (k : String) :
    a.bindings.lookup k = specBinding ts api r p k := by
  have hfm := ((altRun_fullMatch_iff h).1 hm).2
  obtain ⟨es, hes, rfl⟩ := altRun_string_eq_ok.1 h
  simp only [AltRun.bindings, AltRun.binds, lookup_foldl_insert, AList.lookup_empty,
    Option.or_none, segmentEffects_binds hes, ← List.filterMap_reverse, List.find?_filterMap,
    pairUp_eq, ← List.map_reverse, specBinding, lastIndexOf, List.find?_map, Option.bind_map,
    Function.comp_def]
  rcases hk : api.get k with _ | v
  · -- `k` is no key of the group: nothing binds it
    have hnone : ∀ x, keyBinding ts api k x = none := by simp [keyBinding, hk]
    rw [List.find?_eq_none.2 fun i _ hi => ?_]
    · cases List.find? _ _ <;> simp [hnone]
    · rw [eq_of_keyBinding_any hi, hnone, Option.any_none] at hi
      cases hi
  · -- `k` is a key: its last position binds it
    rw [find?_congr_mem fun i hi => keyBinding_any_eq hk (hfm i (by simpa using hi))]
    rcases hf : List.find? (fun i => decide ((splitSlash p).getD i "" = k))
      (List.range (splitSlash p).length).reverse with _ | i
    · rfl
    · have hik := @List.find?_some _ (fun i => decide ((splitSlash p).getD i "" = k)) _ _ hf
      simp only [Option.some_bind, of_decide_eq_true hik]

/-! ## A registry to run the matcher with -/

/-- The segment types of a small registry: `Literal` takes any segment, `Boolean` exactly
`true` and `false`. -/
inductive SampleType where
  | literal
  | boolean
deriving DecidableEq, Repr

/-- The registry: `from_str` knows the two type names and rejects any other. -/
def sampleTypes : SegmentTypes SampleType String where
  fromStr
    | "Literal" => .ok .literal
    | "Boolean" => .ok .boolean
    | _ => .error "Matching variant not found"
  parse
    | .literal, s => some s
    | .boolean, s => if s = "true" ∨ s = "false" then some s else none

/-! ## The string form of a pattern -/

/-- **A pattern and its string form match the same requests.** Every pattern string is its
segments joined by `/`; splitting the join of segments that hold no `/` gives the segments back,
so the pattern written in that form fully matches exactly the requests its segments match. -/
theorem canonical_pattern_round_trip (ts : SegmentTypes τ ν) (api : Value) (r : List String) :
    (∀ p, joinSlash (splitSlash p) = p) ∧
    ∀ segs : List String, segs ≠ [] → (∀ s ∈ segs, '/' ∉ s.toList) →
      splitSlash (joinSlash segs) = segs ∧
      (FullMatch ts api r (joinSlash segs) ↔ r.length ≤ segs.length ∧
        ∀ i < segs.length, segmentMatches ts api (segs.getD i "") (r.getD i "") = true) := by
  refine ⟨joinSlash_splitSlash, fun segs hne hseg => ?_⟩
  have hsplit := splitSlash_joinSlash hne hseg
  exact ⟨hsplit, by rw [FullMatch, hsplit]⟩

/-- The pattern `getbalance/address/:address` is split back into its segments. -/
theorem canonical_pattern_round_trip_address :
    splitSlash (joinSlash ["getbalance", "address", ":address"]) =
      ["getbalance", "address", ":address"] :=
  ((canonical_pattern_round_trip sampleTypes (.table []) []).2 _ (by decide) (by decide)).1

end CapeWallet
