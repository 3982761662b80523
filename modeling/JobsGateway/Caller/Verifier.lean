import JobsGateway.Caller.Reader
import JobsGateway.Gateway.Journal
import JobsGateway.Client.Exchange
import JobsGateway.Http.Detail

/-!
# Verifying callers

A verifier is asked who the caller is and gets to see the header fields of the request. The remote
one repeats the caller's credentials to an identity endpoint and believes a complete, positive
answer with a record in it, and nothing else. A request without credentials is turned away without
asking anyone.
-/

namespace JobsGateway

/-- Why a caller is not known. -/
inductive AuthFailure where
  | noCredentials
  | rejected (status : Status)
  | unavailable (cause : Text)
  deriving Repr, DecidableEq, Inhabited

namespace AuthFailure

/-- The sentence about a failure. -/
def message : AuthFailure → Text
  | .noCredentials => "Not authenticated".toList
  | .rejected status =>
    "identity endpoint rejected credentials with status ".toList ++ status.text
  | .unavailable cause => "identity service unavailable: ".toList ++ cause

/-- The answer to the caller. It does not tell why credentials were not accepted. -/
def response : AuthFailure → Response
  | .noCredentials => .detail .unauthorized (message .noCredentials)
  | .rejected _ => .detail .unauthorized (message .noCredentials)
  | .unavailable cause => .detail .badGateway (message (.unavailable cause))

/-- The event that a failure is logged as. -/
def event : AuthFailure → Event
  | .unavailable cause =>
    { part := .caller
      level := .error
      message := "Identity verification failed"
      fields := [("error", message (.unavailable cause))] }
  | f =>
    { part := .caller
      level := .debug
      message := "Rejecting unauthenticated request"
      fields := [("error", f.message)] }

end AuthFailure

/-- What a verifier says about a request, and what the identity endpoint was asked for it. -/
structure Verification where
  outcome : Except AuthFailure Caller
  asked : Array Delivery

/-- Someone who is asked who the caller is. -/
abbrev Verifier := Fields → Verification

namespace Verifier

/-- A verifier that gives a fixed answer. -/
def fixed (outcome : Except AuthFailure Caller) : Verifier :=
  fun _ => ⟨outcome, #[]⟩

/-- The fields of a request that identify the caller. -/
def credentials (fields : Fields) : Fields :=
  (fields.values FieldName.authorization).map (Field.mk FieldName.authorization) ++
    (fields.values FieldName.cookie).map (Field.mk FieldName.cookie)

/-- The failure of an answer that is no record of a caller. -/
def malformed : AuthFailure :=
  .unavailable "malformed identity record: error decoding response body".toList

/-- What a reply of the identity endpoint says. Its status counts before its body. -/
def judge (reply : Reply) : Except AuthFailure Caller :=
  if reply.status = .unauthorized || reply.status = .forbidden then
    .error (.rejected reply.status)
  else if !reply.status.isSuccess then
    .error (.unavailable
      ("unexpected status ".toList ++ reply.status.text ++ " from identity endpoint".toList))
  else match reply.body with
    | .error _ => .error malformed
    | .ok body =>
      match Caller.ofJson body with
      | .ok caller => .ok caller
      | .error _ => .error malformed

/-- Asks the identity endpoint with the caller's credentials. -/
def remote (network : Network) (endpoint : Url) : Verifier := fun fields =>
  let credentials := credentials fields
  if credentials = [] then ⟨.error .noCredentials, #[]⟩
  else match Outgoing.build Method.get endpoint credentials none with
    | .error url => ⟨.error (.unavailable (ClientError.notAllowed url).headline), #[]⟩
    | .ok r =>
      let attempt := r.send network
      let outcome := match attempt.outcome with
        | .ok reply => judge reply
        | .error e => .error (.unavailable e.headline)
      ⟨outcome, attempt.received⟩

end Verifier

end JobsGateway
