import JobsGateway.Caller.Verifier
import JobsGateway.Gateway.Body
import JobsGateway.Route.Dispatch

/-!
# The gateway

A request to a route is handled in this order: who is the caller, does the path fit the route, is
the body acceptable, what does the backend say. The first step that fails decides the answer, and
nothing reaches the backend before all of them have passed.

Around that, `handle` finds the route, answers what no route is for, adds the length of the body
where none is given, and leaves the body out of the answer to a HEAD request.
-/

namespace JobsGateway

/-- The gateway: its backend, its limit for bodies, and the network it lives in. -/
structure Gateway where
  backend : Backend
  bodyLimit : Nat
  verifier : Verifier
  network : Network

namespace Gateway

/-- The event of a path that has the form of no pattern. -/
def pathRefused (route : Route) (path : Text) : Event where
  part := .handler
  level := .warn
  message := "Path did not match route pattern"
  fields := [("route", route.name), ("path", path)]

/-- The event of a request that is about to be passed on. -/
def proxying (route : Route) (caller : Caller) (path : Text) : Event where
  part := .handler
  level := .debug
  message := "Proxying request"
  fields := [("route", route.name), ("user", caller.id), ("upstream", path)]

/-- Passes a request of a verified caller on to a backend path. -/
def passOn (g : Gateway) (route : Route) (caller : Caller) (path : Text) (inbound : Inbound) :
    Run Response :=
  let call := g.backend.forward g.network inbound path route.verb.method (some caller)
  ⟨match call.result with
    | .ok response => response
    | .error f => f.response,
    .event (proxying route caller path) :: call.journal⟩

/-- Handles a request of a verified caller. -/
def receive (g : Gateway) (route : Route) (caller : Caller) (request : Request) : Run Response :=
  match route.backendPath request.target.pathText with
  | none => ⟨.bare .notFound, [.event (pathRefused route request.target.pathText)]⟩
  | some path =>
    match Inbound.read g.bodyLimit request route.verb.method with
    | .error rejection => ⟨rejection.response, []⟩
    | .ok inbound => g.passOn route caller path inbound

/-- Handles a request to a route. -/
def serve (g : Gateway) (route : Route) (request : Request) : Run Response :=
  let verification := g.verifier request.fields
  let asked := .verification :: verification.asked.toList.map Entry.identityRequest
  match verification.outcome with
  | .error f => ⟨f.response, asked ++ [.event f.event]⟩
  | .ok caller =>
    let run := g.receive route caller request
    ⟨run.result, asked ++ run.journal⟩

/-- The answer of the health check. -/
def healthy : Response :=
  .json .ok (Json.object [("status".toList, Json.string "ok".toList)])

/-- The answer where a path is known and the method is not. -/
def refuseMethod (allowed : List Text) : Response :=
  ⟨.methodNotAllowed, [⟨FieldName.allow, Utf8.encode (Text.join ',' allowed)⟩], []⟩

/-- The response with the length of its body, if it does not give a length itself. -/
def withLength (r : Response) : Response :=
  { r with fields := r.fields.putNew FieldName.contentLength (numberOctets r.body.length) }

/-- The response as it goes out for a method: HEAD gets no body. -/
def finish (method : Text) (r : Response) : Response :=
  let r := withLength r
  if method = Method.head then { r with body := [] } else r

/-- Handles one request. -/
def handle (g : Gateway) (request : Request) : Run Response :=
  match Dispatch.find request.method request.target.pathText with
  | .unknownPath => ⟨.bare .notFound, []⟩
  | .noPath => ⟨finish request.method (.bare .notFound), []⟩
  | .health => ⟨finish request.method healthy, []⟩
  | .wrongMethod allowed => ⟨finish request.method (refuseMethod allowed), []⟩
  | .route route =>
    let run := g.serve route request
    ⟨finish request.method run.result, run.journal⟩

end Gateway

end JobsGateway
