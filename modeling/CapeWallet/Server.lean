import CapeWallet.ParseRoute

/-!
# The server around `parse_route`

Model of the part of `init_server` (`wallet/src/main.rs:244-302`) that reads the API
configuration: the routes it registers from `api["route"]` (lines 265-298), each with the handler
tide calls for it. And of the two handlers that call `parse_route`: `entry_page` (lines 218-223)
and `handle_web_socket` (lines 225-233).

* The handlers' `Ok` branches call `dispatch_url` and `dispatch_web_socket` (`routes.rs`, not
  among the sources): parameters here.
* A response is its status and body, a `tide::Error` its status and message;
  `StatusCode::BadRequest` is 400.
* `initServer` is the part of `init_server` that reads the configuration: the loop over
  `api["route"]` (lines 265-298), which registers each group's routes. The rest of `init_server`
  is left out, and no statement here is about it: `serve_dir(web_path)?` (line 260), which ends
  `init_server` with `Err` before the configuration is read when the assets directory cannot be
  opened; the fixed routes `/public` (`serve_dir`) and `/` (`disco::compose_help`); and
  `add_form_demonstration` (lines 237-242), whose route `/transfer/:id/:recipient/:amount` hands
  its WebSocket requests to `handle_web_socket`, and so to `parse_route` with the group
  `transfer`. The `println!` for a dropped `PATH` element is output only. The `panic!` of line
  287 appends the group's `{:?}` text; its message here keeps the fixed prefix.
* tide's router (route-recognizer, not among the sources) is `Recognizes`: it drops one leading
  `/` of the route, and reads a segment starting with `:` as one or more characters other than
  `/`, one starting with `*` as one or more characters of any kind, and any other segment as
  itself. `IsInstance` is the relation the claims use for a request of a route: as many
  `/`-segments, equal on every segment that does not start with `:`. The two agree on the routes
  `parse_route` can serve (`recognizes_and_parse_iff`, `Spec/Router.lean`).
-/

namespace CapeWallet

open Outcome

/-- A route `init_server` registers (`web_server.at(&path)`), and whether its handler is
`handle_web_socket` (`WEB_SOCKET = true`) or `entry_page`. -/
structure Route where
  path : String
  webSocket : Bool
deriving Repr, DecidableEq

/-- `v.get("WEB_SOCKET").map(|v| v.as_bool().expect(..)).unwrap_or(false)` (lines 268-271). -/
def webSocketFlag (v : Value) : Outcome String Bool :=
  match v.get "WEB_SOCKET" with
  | some w => expect w.asBool "expected boolean value for WEB_SOCKET"
  | none => pure false

/-- The `match &v["PATH"]` of lines 272-288: a string is one route, an array its string
elements. -/
def pathRoutes : Value → Outcome String (List String)
  | .string s => pure [s]
  | .array a => pure (a.filterMap Value.asStr)
  | _ => .panic "Expecting a toml::String or toml::Array, but got: "

/-- The closure `api_map.values().for_each` runs on one group `v` (lines 267-297). -/
def groupRoutes (v : Value) : Outcome String (List Route) := do
  let webSocket ← webSocketFlag v
  let routes ← pathRoutes (← v.index "PATH")
  pure (routes.map fun path => ⟨path, webSocket⟩)

/-- The routes `init_server` registers from the configuration `api`, in order. -/
def initServer (api : Value) : Outcome String (List Route) := do
  match (← api.index "route").asTable with
  | some apiMap => List.flatten <$> traverseList (fun entry => groupRoutes entry.2) apiMap
  | none => pure []

/-- A segment of a route that tide's router reads as a parameter: it starts with `:`. -/
def isParameter (segment : String) : Bool :=
  segment.data.head? == some ':'

/-- The request path `segs` is an instance of the route path `path`: as many `/`-segments, and
equal on every segment that does not start with `:`. -/
def IsInstance (path : String) (segs : List String) : Prop :=
  List.Forall₂ (fun pat seg => isParameter pat = true ∨ pat = seg) (splitSlash path) segs

instance (path : String) (segs : List String) : Decidable (IsInstance path segs) :=
  inferInstanceAs (Decidable (List.Forall₂ _ _ _))

/-! ## tide's router -/

/-- A segment of a route that route-recognizer reads as a wildcard: it starts with `*`. -/
def isWildcard (segment : String) : Bool :=
  segment.data.head? == some '*'

/-- A segment that tide's router and `parse_route` both read as the same literal: non-empty,
and starting with neither `:` nor `*`. -/
def isLiteral (segment : String) : Bool :=
  segment != "" && !isParameter segment && !isWildcard segment

theorem isLiteral_eq_true {segment : String} :
    isLiteral segment = true ↔
      segment ≠ "" ∧ isParameter segment = false ∧ isWildcard segment = false := by
  simp [isLiteral, and_assoc]

/-- The segments route-recognizer reads in a route path: it drops one leading `/` (`add`), and
splits at `/`. -/
def routeSegments (path : String) : List String :=
  splitSlash (if path.data.head? == some '/' then String.mk path.data.tail else path)

/-- route-recognizer's match of the segments of a route against those of a request path (the
path without its leading `/`, split at `/`). A `:` segment matches one or more characters other
than `/`: one non-empty segment. A `*` segment matches one or more characters of any kind: some
segments whose join is not empty. Any other segment matches itself. -/
def matchSegments : List String → List String → Bool
  | [], segs => segs.isEmpty
  | pat :: ps, segs =>
    if isWildcard pat then
      (List.range segs.length).any fun i =>
        joinSlash (segs.take (i + 1)) != "" && matchSegments ps (segs.drop (i + 1))
    else
      match segs with
      | [] => false
      | seg :: rest =>
        (if isParameter pat then seg != "" else seg == pat) && matchSegments ps rest

/-- tide routes the request path `segs` to the route `path`. -/
def Recognizes (path : String) (segs : List String) : Prop :=
  matchSegments (routeSegments path) segs = true

instance (path : String) (segs : List String) : Decidable (Recognizes path segs) :=
  inferInstanceAs (Decidable (_ = true))

section MatchSegments

variable {pat : String} {ps : List String}

@[simp] theorem matchSegments_nil (segs : List String) : matchSegments [] segs = segs.isEmpty :=
  rfl

theorem matchSegments_cons_nil (h : isWildcard pat = false) :
    matchSegments (pat :: ps) [] = false := by
  simp [matchSegments, h]

theorem matchSegments_cons_cons (h : isWildcard pat = false) (seg : String) (rest : List String) :
    matchSegments (pat :: ps) (seg :: rest) =
      ((if isParameter pat then seg != "" else seg == pat) && matchSegments ps rest) := by
  simp [matchSegments, h]

/-- Without wildcards, route-recognizer matches segment by segment: a `:` segment any non-empty
segment, any other segment itself. -/
theorem matchSegments_iff_forall₂ (hstar : ∀ s ∈ ps, isWildcard s = false) {segs : List String} :
    matchSegments ps segs = true ↔
      List.Forall₂ (fun pat seg => if isParameter pat then seg ≠ "" else pat = seg) ps segs := by
  induction ps generalizing segs with
  | nil => cases segs <;> simp
  | cons pat ps ih =>
    have hw := hstar pat (.head _)
    cases segs with
    | nil => simp [matchSegments_cons_nil hw]
    | cons seg rest =>
      rw [matchSegments_cons_cons hw, List.forall₂_cons, Bool.and_eq_true,
        ih fun s hs => hstar s (.tail _ hs)]
      cases isParameter pat
      · simp only [Bool.false_eq_true, if_false, beq_iff_eq]
        exact and_congr_left' eq_comm
      · simp only [if_true, bne_iff_ne]

end MatchSegments

/-- A route whose first segment is not empty loses no `/` to route-recognizer. -/
theorem routeSegments_eq {path : String} (h : (splitSlash path).head? ≠ some "") :
    routeSegments path = splitSlash path := by
  rw [routeSegments, if_neg]
  obtain ⟨_ | ⟨c, cs⟩⟩ := path
  · simp
  · rintro hc
    obtain rfl : c = '/' := by simpa using hc
    exact h rfl

/-- A route led by a literal loses no `/` to route-recognizer. -/
theorem routeSegments_of_head {path k : String} (hk : (splitSlash path).head? = some k)
    (hlit : isLiteral k = true) : routeSegments path = splitSlash path :=
  routeSegments_eq fun h => (isLiteral_eq_true.1 hlit).1 (Option.some.inj (hk.symm.trans h))

example : Recognizes "/transfer/:id/:recipient/:amount" ["transfer", "7", "alice", "10"] := by
  decide

example : Recognizes "a/*rest" ["a", "b", "c"] ∧ ¬ IsInstance "a/*rest" ["a", "b", "c"] := by
  decide

/-! ## The handlers -/

/-- A `tide::Response`: its status and body. -/
structure Response where
  status : Nat
  body : String
deriving Repr, DecidableEq

/-- A `tide::Error`: its status and message. -/
structure TideError where
  status : Nat
  message : String
deriving Repr, DecidableEq

variable {τ ν : Type} (ts : SegmentTypes τ ν)

/-- `entry_page`: the trace of a failed match is the body of a `200` response. -/
def entryPage (dispatchUrl : String → Bindings τ ν → Outcome TideError Response) (state : Value)
    (pathSegments : Option (List String)) : Outcome TideError Response :=
  match parseRoute ts state pathSegments with
  | .ok (pattern, bindings) => dispatchUrl pattern bindings
  | .err argDoc => .ok ⟨200, argDoc⟩
  | .panic m => .panic m

/-- `handle_web_socket`: the trace of a failed match is a `BadRequest` error. -/
def handleWebSocket (dispatchWebSocket : String → Bindings τ ν → Outcome TideError Unit)
    (state : Value) (pathSegments : Option (List String)) : Outcome TideError Unit :=
  match parseRoute ts state pathSegments with
  | .ok (pattern, bindings) => dispatchWebSocket pattern bindings
  | .err argDoc => .err ⟨400, argDoc⟩
  | .panic m => .panic m

end CapeWallet
