import CapeWallet.ParseRoute

/-!
# One alternative on its own

The two loops of `parse_route` share their state: `arg_doc` and `bindings` run through every
alternative, and the iterator `req_segments` through every segment of one. This file shows that
the sharing is only accumulation. What one pattern segment does depends on nothing but the
segment and the request segment the loop reads for it (`segmentEffect`), and what one
alternative does depends on nothing but its pattern and the request (`altRun`):

* `segmentStep_eq`: the loop body is `segmentEffect` followed by `SegmentEffect.apply`, which
  appends to `arg_doc`, inserts into `bindings`, sets the flags and advances the iterator.
* `segmentLoop_eq`: the whole loop over a pattern's segments is `segmentEffect` on each pair of
  `pairUp` (pattern segment, request segment read for it, `""` past the end), in order, folded
  into the state.
* `routeStep_eq`: the body of the loop over `PATH` is `altRun` followed by `AltRun.apply`.
-/

namespace CapeWallet

open Outcome

variable {τ ν : Type} (ts : SegmentTypes τ ν) (api : Value)

/-! ## One segment -/

/-- What one pattern segment contributes, read against one request segment. -/
structure SegmentEffect (τ ν : Type) where
  doc : String
  binding : Option (RouteBinding τ ν)
  literalMismatch : Bool
  parseFailed : Bool

/-- The effect of `pat_segment` when the loop reads `reqSegment` for it. -/
def segmentEffect (patSegment reqSegment : String) : Outcome String (SegmentEffect τ ν) :=
  match api.get patSegment with
  | some segmentTypeValue =>
    match segmentTypeValue.asStr with
    | none => panic "The path pattern must be a string."
    | some segmentType =>
      match ts.fromStr segmentType with
      | .error e => err e
      | .ok ptype =>
        match ts.parse ptype reqSegment with
        | some value =>
          ok ⟨argumentDoc patSegment segmentType reqSegment ++ "(Parse succeeded)\n",
            some ⟨patSegment, ptype, value⟩, false, false⟩
        | none =>
          ok ⟨argumentDoc patSegment segmentType reqSegment ++ "(Parse failed)\n", none, false, true⟩
  | none =>
    if reqSegment ≠ patSegment then ok ⟨mismatchDoc reqSegment patSegment, none, true, false⟩
    else ok ⟨"", none, false, false⟩

variable {ts api}

/-- The loop's locals after a segment with effect `e` of the alternative `pattern`. -/
def SegmentEffect.apply (pattern : String) (st : SegmentState τ ν) (e : SegmentEffect τ ν) :
    SegmentState τ ν where
  argDoc := st.argDoc ++ e.doc
  bindings := match e.binding with
    | some rb => entryInsert st.bindings pattern rb
    | none => st.bindings
  foundLiteralMismatch := st.foundLiteralMismatch || e.literalMismatch
  argumentParseFailed := st.argumentParseFailed || e.parseFailed
  reqSegments := st.reqSegments.tail

section
variable (pattern : String) (st : SegmentState τ ν) (e : SegmentEffect τ ν)

@[simp] theorem SegmentEffect.apply_argDoc : (e.apply pattern st).argDoc = st.argDoc ++ e.doc :=
  rfl

@[simp] theorem SegmentEffect.apply_foundLiteralMismatch :
    (e.apply pattern st).foundLiteralMismatch = (st.foundLiteralMismatch || e.literalMismatch) :=
  rfl

@[simp] theorem SegmentEffect.apply_argumentParseFailed :
    (e.apply pattern st).argumentParseFailed = (st.argumentParseFailed || e.parseFailed) := rfl

@[simp] theorem SegmentEffect.apply_reqSegments :
    (e.apply pattern st).reqSegments = st.reqSegments.tail := rfl

end

theorem segmentStep_eq (pattern : String) (st : SegmentState τ ν) (patSegment : String) :
    segmentStep ts api pattern st patSegment =
      (SegmentEffect.apply pattern st) <$>
        segmentEffect ts api patSegment (st.reqSegments.headD "") := by
  unfold segmentStep segmentEffect
  generalize st.reqSegments.headD "" = r
  cases api.get patSegment with
  | none => by_cases h : r = patSegment <;> simp [h, SegmentEffect.apply]
  | some v =>
    dsimp only
    cases v.asStr with
    | none => rfl
    | some t =>
      simp only [expect_some, ok_bind]
      cases ts.fromStr t with
      | error e => rfl
      | ok ty =>
        simp only [ofExcept_ok, ok_bind]
        cases ts.parse ty r <;> simp [SegmentEffect.apply, String.append_assoc]

/-! ## One pattern -/

/-- Each pattern segment, with the request segment the loop reads for it: `""` past the end of
the request (`req_segments.next().unwrap_or("")`). -/
def pairUp : List String → List String → List (String × String)
  | [], _ => []
  | s :: ss, reqs => (s, reqs.headD "") :: pairUp ss reqs.tail

variable (ts api) in
/-- The effects of the segments of one pattern, in order, up to the first `Err` or panic. -/
def segmentEffects (pairs : List (String × String)) : Outcome String (List (SegmentEffect τ ν)) :=
  traverseList (fun x => segmentEffect ts api x.1 x.2) pairs

/-- The loop's locals after the effects `es`, in order. -/
def SegmentEffect.applyAll (pattern : String) (st : SegmentState τ ν)
    (es : List (SegmentEffect τ ν)) : SegmentState τ ν :=
  es.foldl (SegmentEffect.apply pattern) st

theorem segmentLoop_eq (pattern : String) (ss : List String) (st : SegmentState τ ν) :
    ss.foldlM (segmentStep ts api pattern) st =
      SegmentEffect.applyAll pattern st <$> segmentEffects ts api (pairUp ss st.reqSegments) := by
  induction ss generalizing st with
  | nil => rfl
  | cons s ss ih =>
    simp only [List.foldlM_cons, segmentStep_eq, pairUp, segmentEffects, traverseList]
    rcases segmentEffect ts api s (st.reqSegments.headD "") with e | e | m
    · simp only [map_ok, ok_bind, ih, SegmentEffect.apply_reqSegments, segmentEffects]
      rcases traverseList _ (pairUp ss st.reqSegments.tail) <;> rfl
    · rfl
    · rfl

variable {pattern : String} {st : SegmentState τ ν} {es : List (SegmentEffect τ ν)}

@[simp] theorem applyAll_argDoc :
    (SegmentEffect.applyAll pattern st es).argDoc = st.argDoc ++ String.join (es.map (·.doc)) := by
  induction es generalizing st with
  | nil => simp [SegmentEffect.applyAll]
  | cons e es ih =>
    simp only [SegmentEffect.applyAll, List.foldl_cons, List.map_cons] at ih ⊢
    rw [ih, SegmentEffect.apply_argDoc, string_join_cons, String.append_assoc]

@[simp] theorem applyAll_foundLiteralMismatch :
    (SegmentEffect.applyAll pattern st es).foundLiteralMismatch =
      (st.foundLiteralMismatch || es.any (·.literalMismatch)) := by
  induction es generalizing st with
  | nil => simp [SegmentEffect.applyAll]
  | cons e es ih =>
    simp only [SegmentEffect.applyAll, List.foldl_cons, List.any_cons] at ih ⊢
    rw [ih, SegmentEffect.apply_foundLiteralMismatch, Bool.or_assoc]

@[simp] theorem applyAll_argumentParseFailed :
    (SegmentEffect.applyAll pattern st es).argumentParseFailed =
      (st.argumentParseFailed || es.any (·.parseFailed)) := by
  induction es generalizing st with
  | nil => simp [SegmentEffect.applyAll]
  | cons e es ih =>
    simp only [SegmentEffect.applyAll, List.foldl_cons, List.any_cons] at ih ⊢
    rw [ih, SegmentEffect.apply_argumentParseFailed, Bool.or_assoc]

@[simp] theorem applyAll_reqSegments :
    (SegmentEffect.applyAll pattern st es).reqSegments = st.reqSegments.drop es.length := by
  induction es generalizing st with
  | nil => rfl
  | cons e es ih =>
    simp only [SegmentEffect.applyAll, List.foldl_cons, List.length_cons] at ih ⊢
    rw [ih, SegmentEffect.apply_reqSegments, List.drop_tail]

@[simp] theorem applyAll_bindings :
    (SegmentEffect.applyAll pattern st es).bindings =
      (es.filterMap (·.binding)).foldl (fun m rb => entryInsert m pattern rb) st.bindings := by
  induction es generalizing st with
  | nil => rfl
  | cons e es ih =>
    simp only [SegmentEffect.applyAll, List.foldl_cons] at ih ⊢
    rw [ih]
    rcases hb : e.binding with _ | rb <;> simp [SegmentEffect.apply, hb]

theorem pairUp_length (ss reqs : List String) : (pairUp ss reqs).length = ss.length := by
  induction ss generalizing reqs with
  | nil => rfl
  | cons s ss ih => simp [pairUp, ih]

theorem segmentEffects_length {ss reqs : List String} (h : segmentEffects ts api (pairUp ss reqs) = ok es) :
    es.length = ss.length := by
  rw [← pairUp_length ss reqs]
  exact ((traverse_eq_ok.1 h).length_eq).symm

/-! ## One alternative -/

/-- One alternative run on its own: its pattern, the effect of each of its segments, and the
request segments the loop leaves unread. -/
structure AltRun (τ ν : Type) where
  pattern : String
  effects : List (SegmentEffect τ ν)
  rest : List String

namespace AltRun

variable (a : AltRun τ ν)

/-- `length_matches` (line 176). -/
def lengthMatches : Bool := a.rest.isEmpty

/-- `found_literal_mismatch` after the loop. -/
def literalMismatch : Bool := a.effects.any (·.literalMismatch)

/-- `argument_parse_failed` after the loop. -/
def parseFailed : Bool := a.effects.any (·.parseFailed)

/-- The test of line 188: the alternative is a full match. -/
def fullMatch : Bool := !a.parseFailed && a.lengthMatches && !a.literalMismatch

/-- All the text the alternative appends to `arg_doc`. -/
def doc : String :=
  routeDoc a.pattern ++ String.join (a.effects.map (·.doc)) ++
    verdictDoc a.pattern a.literalMismatch a.lengthMatches a.parseFailed ++
    matchDoc a.pattern a.fullMatch

/-- The bindings the alternative inserts, in order. -/
def binds : List (RouteBinding τ ν) := a.effects.filterMap (·.binding)

/-- The alternative's own binding map: its bindings inserted into an empty one. -/
def bindings : Bindings τ ν := a.binds.foldl (fun b rb => b.insert rb.parameter rb) ∅

/-- The locals of `parse_route` after the alternative. -/
def apply (rs : RouteState τ ν) : RouteState τ ν where
  argDoc := rs.argDoc ++ a.doc
  matchingRouteCount := rs.matchingRouteCount + if a.fullMatch then 1 else 0
  matchingRoute := if a.fullMatch then a.pattern else rs.matchingRoute
  bindings := a.binds.foldl (fun m rb => entryInsert m a.pattern rb) rs.bindings

section
variable (rs : RouteState τ ν)

@[simp] theorem apply_argDoc : (a.apply rs).argDoc = rs.argDoc ++ a.doc := rfl

@[simp] theorem apply_matchingRouteCount :
    (a.apply rs).matchingRouteCount = rs.matchingRouteCount + if a.fullMatch then 1 else 0 := rfl

@[simp] theorem apply_matchingRoute :
    (a.apply rs).matchingRoute = if a.fullMatch then a.pattern else rs.matchingRoute := rfl

@[simp] theorem apply_bindings :
    (a.apply rs).bindings = a.binds.foldl (fun m rb => entryInsert m a.pattern rb) rs.bindings :=
  rfl

end

end AltRun

variable (ts api) in
/-- One alternative `routePattern` of `PATH`, against the request `pathSegments`. -/
def altRun (pathSegments : List String) (routePattern : Value) : Outcome String (AltRun τ ν) := do
  let pattern ← unwrap routePattern.asStr
  let effects ← segmentEffects ts api (pairUp (splitSlash pattern) pathSegments)
  pure ⟨pattern, effects, pathSegments.drop (splitSlash pattern).length⟩

theorem routeStep_eq (pathSegments : List String) (rs : RouteState τ ν) (routePattern : Value) :
    routeStep ts api pathSegments rs routePattern =
      (·.apply rs) <$> altRun ts api pathSegments routePattern := by
  unfold routeStep altRun
  cases routePattern.asStr with
  | none => rfl
  | some pattern =>
    simp only [unwrap_some, ok_bind, segmentLoop_eq]
    rcases h : segmentEffects ts api (pairUp (splitSlash pattern) pathSegments) with es | e | m
    · have hlen := segmentEffects_length h
      simp only [map_ok, ok_bind, applyAll_argDoc, applyAll_foundLiteralMismatch,
        applyAll_argumentParseFailed, applyAll_reqSegments, applyAll_bindings, hlen,
        Bool.false_or, pure_eq]
      simp only [AltRun.apply, AltRun.doc, AltRun.fullMatch, AltRun.lengthMatches,
        AltRun.literalMismatch, AltRun.parseFailed, AltRun.binds, String.append_assoc]
      split <;> simp_all
    · rfl
    · rfl

end CapeWallet
