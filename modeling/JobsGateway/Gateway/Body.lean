import JobsGateway.Backend.Call

/-!
# Taking up a request

Before a request is passed on, its fields and query are copied, and for some methods its body is
collected. A body larger than the limit is refused as soon as the chunks so far exceed it; a body
that breaks off before that is refused for the fault. For other methods the body is left alone, and
nothing that is wrong with it matters.
-/

namespace JobsGateway

/-- Why a body was not accepted. -/
inductive BodyRejection where
  | tooLarge
  | broken (cause : Text)
  deriving Repr, DecidableEq, Inhabited

namespace BodyRejection

/-- The sentence about a rejection. -/
def message : BodyRejection → Text
  | .tooLarge => "Failed to buffer the request body: length limit exceeded".toList
  | .broken cause => "Failed to buffer the request body: ".toList ++ cause

/-- The status that a rejection is answered with. -/
def status : BodyRejection → Status
  | .tooLarge => .payloadTooLarge
  | .broken _ => .badRequest

/-- The answer to the caller. -/
def response (r : BodyRejection) : Response :=
  .plain r.status r.message

end BodyRejection

/-- Collects chunks while they fit in what is left of the limit. -/
def collectChunks (room : Nat) (fault : Option Text) : List Bytes → Except BodyRejection Bytes
  | [] =>
    match fault with
    | none => .ok []
    | some cause => .error (.broken cause)
  | chunk :: rest =>
    if room < chunk.length then .error .tooLarge
    else (collectChunks (room - chunk.length) fault rest).map (chunk ++ ·)

/-- Collects a body. -/
def BodyStream.collect (limit : Nat) (s : BodyStream) : Except BodyRejection Bytes :=
  collectChunks limit s.fault s.chunks

/-- The limit of a body where none is set. -/
def defaultBodyLimit : Nat := 2097152

/-- Takes up what is passed on of a request under a method. -/
def Inbound.read (limit : Nat) (request : Request) (method : Text) :
    Except BodyRejection Inbound :=
  if Method.carriesBody method then
    (request.body.collect limit).map (Inbound.mk request.fields request.target.query)
  else .ok ⟨request.fields, request.target.query, []⟩

end JobsGateway
