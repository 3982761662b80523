import JobsGateway.Backend.Crossing
import JobsGateway.Client.Exchange
import JobsGateway.Http.Detail

/-!
# Failures of a call to the backend

An answer of the backend with any status is no failure. A call fails if its URL cannot be put
together, if the caller cannot be told to the backend, if no answer comes in time, or if none comes
at all.
-/

namespace JobsGateway.Backend

/-- Why a call to the backend has no answer. -/
inductive Failure where
  | timeout
  | transport (cause : Text)
  | invalidUrl (error : UrlError)
  | unsendable (field : CallerField)
  deriving Repr, DecidableEq, Inhabited

namespace Failure

/-- The failure that an error of the client amounts to. -/
def ofClient (e : ClientError) : Failure :=
  if e.isTimeout then .timeout else .transport (describe e.chain)

/-- The sentence about a failure. -/
def message : Failure → Text
  | .timeout => "Aiden API timeout".toList
  | .transport cause => "Aiden API unavailable: ".toList ++ cause
  | .invalidUrl e => "Aiden API unavailable: invalid upstream URL: ".toList ++ e.message.toList
  | .unsendable field => field.unsendableMessage

/-- The texts of a failure and its sources. -/
def chain : Failure → List Text
  | .invalidUrl e => [message (.invalidUrl e), e.message.toList]
  | f => [f.message]

/-- The status that a failure is answered with. -/
def status : Failure → Status
  | .timeout => .gatewayTimeout
  | .transport _ => .badGateway
  | .invalidUrl _ => .badGateway
  | .unsendable _ => .internalServerError

/-- The answer to the caller. -/
def response (f : Failure) : Response :=
  .detail f.status f.message

end Failure

end JobsGateway.Backend
