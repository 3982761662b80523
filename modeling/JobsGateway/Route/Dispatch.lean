import JobsGateway.Route.Table

/-!
# Finding the route of a request

The path of a request is compared with all patterns at once, segment by segment. Where a literal
and a parameter both fit, the patterns with the literal are tried first, and those with the
parameter if none of them leads to the end. A parameter takes any segment that is not empty. The
pattern that is found then has a route for the method of the request, or it has not; a HEAD request
is served as a GET.
-/

namespace JobsGateway

/-- What stands behind a pattern: the routes that share it, or the health check. -/
inductive Endpoint where
  | routes (list : List Route)
  | health
  deriving Repr, DecidableEq, Inhabited

/-- Where a request is to be handled. -/
inductive Dispatch where
  | route (route : Route)
  | health
  | wrongMethod (allowed : List Text)
  | unknownPath
  | noPath
  deriving Repr, DecidableEq, Inhabited

namespace Dispatch

/-- The candidates that go on with a literal segment, without it. -/
def afterLiteral {α : Type} (text : Text) (candidates : List (List Segment × α)) :
    List (List Segment × α) :=
  candidates.filterMap fun
    | (.literal t :: rest, a) => if t = text then some (rest, a) else none
    | _ => none

/-- The candidates that go on with a parameter, without it. -/
def afterParam {α : Type} (candidates : List (List Segment × α)) : List (List Segment × α) :=
  candidates.filterMap fun
    | (.param _ :: rest, a) => some (rest, a)
    | _ => none

/-- The candidate that the segments of a path lead to. -/
def select {α : Type} (candidates : List (List Segment × α)) : List Text → Option α
  | [] => (candidates.find? fun c => c.1.isEmpty).map Prod.snd
  | text :: path =>
    match select (afterLiteral text candidates) path with
    | some a => some a
    | none => if text = [] then none else select (afterParam candidates) path

/-- The patterns of the table, each once, in order. -/
def patterns (table : List Route) : List Text :=
  (table.map Route.inbound).eraseDups

/-- The routes of the table with a pattern. -/
def sharing (table : List Route) (inbound : Text) : List Route :=
  table.filter fun r => r.inbound = inbound

/-- The path of the health check. -/
def healthPath : Text := "/healthz".toList

/-- All patterns with what stands behind them. -/
def endpoints : List (List Segment × Endpoint) :=
  (patterns Route.table).map (fun inbound =>
    ((Route.segmentsOf inbound).map Segment.read, Endpoint.routes (sharing Route.table inbound)))
    ++ [((Route.segmentsOf healthPath).map Segment.read, .health)]

/-- The endpoint of a path after its first slash. -/
def endpoint? (rest : Text) : Option Endpoint :=
  select endpoints (Text.split '/' rest)

/-- The method whose handler serves a request. -/
def servedAs (method : Text) : Text :=
  if method = Method.head then Method.get else method

/-- The methods that are served where a verb is. -/
def methodsOf : Verb → List Text
  | .get => [Method.get, Method.head]
  | verb => [verb.method]

/-- Where a request of a method to an endpoint is handled. -/
def atEndpoint (method : Text) : Endpoint → Dispatch
  | .health => if servedAs method = Method.get then .health else .wrongMethod (methodsOf .get)
  | .routes routes =>
    match routes.find? fun r => r.verb.method = servedAs method with
    | some r => .route r
    | none => .wrongMethod (routes.flatMap fun r => methodsOf r.verb)

/-- Where a request of a method to a path is handled. A target that does not start with a slash is
no path. -/
def find (method path : Text) : Dispatch :=
  match path with
  | '/' :: rest => ((endpoint? rest).map (atEndpoint method)).getD .unknownPath
  | _ => .noPath

end Dispatch

end JobsGateway
