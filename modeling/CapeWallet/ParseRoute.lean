import CapeWallet.Toml

/-!
# `parse_route`

Model of `parse_route` (`wallet/src/main.rs:92-211`), the matcher between a request path and the
alternatives of the route group its first segment selects in `api.toml`.

* `UrlSegmentType::from_str` and `UrlSegmentValue::parse` live in `routes.rs`, which is not among
  the sources: `SegmentTypes τ ν` holds them, with the segment types `τ` and the parsed values `ν`
  as parameters.
* The request is `req.url().path_segments()`: `none` for a URL that cannot be a base, otherwise
  its segments (for an `http` URL never empty). The iterator the inner loop reads
  (`req_segments`) is the list of segments not yet consumed: `next()` is `headD ""` and `tail`.
* The mutable locals are two records: `RouteState` lives across the loop over `PATH`,
  `SegmentState` across the loop over one pattern's segments. Each loop is a
  `List.foldlM` over its list, each body a `...Step` function, so every early return (`?` on
  `from_str`) and every panic (`expect`, `unwrap`, toml's `Index`) is where the source has it.
* `HashMap`s are `AList`s: one entry per key, `insert` replaces. The bindings of all
  alternatives are kept per pattern string, as in the source (`bindings.entry(pattern)`).
* `matching_route_count` is a `u64`; it counts alternatives, so it is a `Nat` here.

The trace text (`arg_doc`) is built from the same pieces as in the source (`routeDoc`,
`argumentDoc`, `mismatchDoc`, `verdictDoc`), in the same order.
-/

namespace CapeWallet

open Outcome

/-- `UrlSegmentType::from_str` (its error already `err.to_string()`) and
`UrlSegmentValue::parse`. -/
structure SegmentTypes (τ ν : Type) where
  fromStr : String → Except String τ
  parse : τ → String → Option ν

/-- `RouteBinding`. -/
structure RouteBinding (τ ν : Type) where
  parameter : String
  ptype : τ
  value : ν
deriving Repr, DecidableEq

/-- `HashMap<String, RouteBinding>`, keyed by parameter. -/
abbrev Bindings (τ ν : Type) := AList (fun _ : String => RouteBinding τ ν)

/-- `HashMap<String, HashMap<String, RouteBinding>>`, keyed by route pattern. -/
abbrev PatternBindings (τ ν : Type) := AList (fun _ : String => Bindings τ ν)

variable {τ ν : Type}

/-- `bindings.entry(pattern).or_default().insert(parameter, rb)`. -/
def entryInsert (m : PatternBindings τ ν) (pattern : String) (rb : RouteBinding τ ν) :
    PatternBindings τ ν :=
  m.insert pattern (((m.lookup pattern).getD ∅).insert rb.parameter rb)

/-! ## The pieces of `arg_doc` -/

/-- Line 113: the heading of one alternative. -/
def routeDoc (pattern : String) : String :=
  "\n\nRoute: " ++ pattern ++ "\n--------------------\n"

/-- Line 133: a parameter segment. -/
def argumentDoc (patSegment segmentType reqSegment : String) : String :=
  "  Argument: " ++ patSegment ++ " as type " ++ segmentType ++ " and value: " ++ reqSegment ++ " "

/-- Line 161: a literal segment that the request does not repeat. -/
def mismatchDoc (reqSegment patSegment : String) : String :=
  "Request segment " ++ reqSegment ++ " does not match route segment " ++ patSegment ++ ".\n"

/-- Lines 169-187: the three checks after the segments. -/
def verdictDoc (pattern : String) (foundLiteralMismatch lengthMatches argumentParseFailed : Bool) :
    String :=
  (if !foundLiteralMismatch then "Literals match for " ++ pattern ++ "\n" else "") ++
  (if lengthMatches then "Length match for " ++ pattern ++ "\n" else "") ++
  (if argumentParseFailed then "Argument parsing failed.\n" else "No argument parsing errors!\n")

/-- Lines 190 and 194: the alternative's verdict. -/
def matchDoc (pattern : String) (routeMatches : Bool) : String :=
  if routeMatches then "Route matches request: " ++ pattern ++ "\n"
  else "Route does not match request.\n"

/-! ## The loop over one pattern's segments (lines 117-168) -/

/-- The locals of one alternative, and the two the whole function shares (`arg_doc`,
`bindings`). -/
structure SegmentState (τ ν : Type) where
  argDoc : String
  bindings : PatternBindings τ ν
  foundLiteralMismatch : Bool
  argumentParseFailed : Bool
  reqSegments : List String

/-- The body of `for pat_segment in route_pattern.split('/')` (lines 123-167). `api` is the
route group, `&req.state().api["route"][first_segment]`. -/
def segmentStep (ts : SegmentTypes τ ν) (api : Value) (routePattern : String)
    (st : SegmentState τ ν) (patSegment : String) : Outcome String (SegmentState τ ν) :=
  match api.get patSegment with
  | some segmentTypeValue => do
    let segmentType ← expect segmentTypeValue.asStr "The path pattern must be a string."
    let reqSegment := st.reqSegments.headD ""
    let argDoc := st.argDoc ++ argumentDoc patSegment segmentType reqSegment
    let ptype ← ofExcept (ts.fromStr segmentType)
    match ts.parse ptype reqSegment with
    | some value =>
      pure { st with
        argDoc := argDoc ++ "(Parse succeeded)\n"
        bindings := entryInsert st.bindings routePattern ⟨patSegment, ptype, value⟩
        reqSegments := st.reqSegments.tail }
    | none =>
      pure { st with
        argDoc := argDoc ++ "(Parse failed)\n"
        argumentParseFailed := true
        reqSegments := st.reqSegments.tail }
  | none =>
    let reqSegment := st.reqSegments.headD ""
    if reqSegment ≠ patSegment then
      pure { st with
        foundLiteralMismatch := true
        argDoc := st.argDoc ++ mismatchDoc reqSegment patSegment
        reqSegments := st.reqSegments.tail }
    else
      pure { st with reqSegments := st.reqSegments.tail }

/-! ## The loop over `PATH` (lines 109-196) -/

/-- The locals that live across the loop over the alternatives (lines 105-108). -/
structure RouteState (τ ν : Type) where
  argDoc : String
  matchingRouteCount : Nat
  matchingRoute : String
  bindings : PatternBindings τ ν

/-- The body of `for route_pattern in route_patterns.iter()`. The `unwrap` of line 114 runs
first, so the `expect` of line 120 never fires. -/
def routeStep (ts : SegmentTypes τ ν) (api : Value) (pathSegments : List String)
    (rs : RouteState τ ν) (routePattern : Value) : Outcome String (RouteState τ ν) := do
  let pattern ← unwrap routePattern.asStr
  let st ← (splitSlash pattern).foldlM (segmentStep ts api pattern)
    ⟨rs.argDoc ++ routeDoc pattern, rs.bindings, false, false, pathSegments⟩
  let lengthMatches := st.reqSegments.isEmpty
  let routeMatches := !st.argumentParseFailed && lengthMatches && !st.foundLiteralMismatch
  let argDoc := st.argDoc ++
    verdictDoc pattern st.foundLiteralMismatch lengthMatches st.argumentParseFailed ++
    matchDoc pattern routeMatches
  if routeMatches then
    pure ⟨argDoc, rs.matchingRouteCount + 1, pattern, st.bindings⟩
  else
    pure ⟨argDoc, rs.matchingRouteCount, rs.matchingRoute, st.bindings⟩

/-! ## `parse_route` -/

/-- The closing `match matching_route_count` (lines 197-210). -/
def routeResult (rs : RouteState τ ν) : Outcome String (String × Bindings τ ν) :=
  match rs.matchingRouteCount with
  | 0 => err (rs.argDoc ++ "\nNeed documentation")
  | 1 => pure (rs.matchingRoute, (rs.bindings.lookup rs.matchingRoute).getD ∅)
  | _ => err (rs.argDoc ++ "\nAmbiguity in api.toml")

/-- `parse_route`: `state` is `req.state().api`, `pathSegments` is
`req.url().path_segments()`. -/
def parseRoute (ts : SegmentTypes τ ν) (state : Value) (pathSegments : Option (List String)) :
    Outcome String (String × Bindings τ ν) := do
  let segments ← okOr pathSegments "No path segments"
  let firstSegment ← okOr segments.head? "Empty path"
  let api ← (← state.index "route").index firstSegment
  let routePatterns ← expect (← api.index "PATH").asArray "Invalid PATH type. Expecting array."
  let argDoc ← expect (← api.index "DOC").asStr "Missing DOC"
  let rs ← routePatterns.foldlM (routeStep ts api segments) ⟨argDoc, 0, "", ∅⟩
  routeResult rs

end CapeWallet
