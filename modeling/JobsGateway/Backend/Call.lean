import JobsGateway.Backend.Basic
import JobsGateway.Backend.Failure
import JobsGateway.Gateway.Journal

/-!
# Calls to the backend

A call takes over the fields, the query and, for some methods, the body of a request. `build` puts
the outgoing request together, `forward` sends it once and passes on what comes back.
-/

namespace JobsGateway

/-- The parts of a request that are passed on. -/
structure Inbound where
  fields : Fields
  query : Option Text
  body : Bytes
  deriving Repr, DecidableEq, Inhabited

namespace Backend

/-- The request to the backend, before it is sent. -/
def build (b : Backend) (inbound : Inbound) (path method : Text) (caller : Option Caller) :
    Except Failure Outgoing := do
  let url ← (b.target path inbound.query).mapError Failure.invalidUrl
  let fields ← (Crossing.outbound inbound.fields caller).mapError Failure.unsendable
  let body := if Method.carriesBody method then some inbound.body else none
  (Outgoing.build method url fields body).mapError fun url =>
    .ofClient (.notAllowed url)

/-- The event of a request that cannot be put together. -/
def unbuildable (method path : Text) (f : Failure) : Event where
  part := .backend
  level := .error
  message := "Could not build upstream request"
  fields := [("method", method), ("path", path), ("error", f.message)]

/-- The event of a request that is about to be sent. -/
def forwarding (r : Outgoing) (caller : Option Caller) : Event where
  part := .backend
  level := .debug
  message := "Forwarding request upstream"
  fields := [("method", r.method), ("url", r.url.text)] ++
    (caller.map fun c => ("user", c.id)).toList

/-- The event of an answer. -/
def responded (r : Outgoing) (status : Status) : Event where
  part := .backend
  level := .debug
  message := "Upstream responded"
  fields := [("method", r.method), ("url", r.url.text), ("status", Text.digits status.code)]

/-- The event of a call without an answer. -/
def failed (b : Backend) (r : Outgoing) : Failure → Event
  | .timeout =>
    { part := .backend
      level := .warn
      message := "Upstream request timed out"
      fields := [("method", r.method), ("url", r.url.text), ("timeout", b.timeout.text)] }
  | f =>
    { part := .backend
      level := .error
      message := "Upstream request failed"
      fields := [("method", r.method), ("url", r.url.text), ("error", f.message)] }

/-- What is passed on of an answer. -/
def relay (reply : Response) : Response :=
  { reply with fields := Crossing.relayed reply.fields }

/-- Sends a request and says how it ended. -/
def exchange (b : Backend) (network : Network) (r : Outgoing) :
    Run (Except Failure Response) :=
  let attempt := r.send network
  let sent := attempt.received.toList.map Entry.backendRequest
  match attempt.outcome.bind Reply.whole with
  | .ok reply => ⟨.ok (relay reply), sent ++ [.event (responded r reply.status)]⟩
  | .error e =>
    ⟨.error (.ofClient e), sent ++ [.event (b.failed r (.ofClient e))]⟩

/-- Makes one call to the backend. -/
def forward (b : Backend) (network : Network) (inbound : Inbound) (path method : Text)
    (caller : Option Caller) : Run (Except Failure Response) :=
  match b.build inbound path method caller with
  | .error f => ⟨.error f, [.event (unbuildable method path f)]⟩
  | .ok r =>
    let run := b.exchange network r
    ⟨run.result, .event (forwarding r caller) :: run.journal⟩

end Backend

end JobsGateway
