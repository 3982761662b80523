import JobsGateway.Caller.Basic
import JobsGateway.Http.Fields

/-!
# Header fields that cross the gateway

Fields that describe one connection only never cross it. On the way to the backend the host and the
length are left out as well, because they are written anew, and so is whatever the request says
about the caller: these four fields come from the verified caller alone. On the way back everything
else is kept.
-/

namespace JobsGateway

/-- The fields that tell the backend who the caller is. -/
inductive CallerField where
  | id
  | email
  | name
  | role
  deriving Repr, DecidableEq, Inhabited

namespace CallerField

/-- All of them, in the order in which they are checked. -/
def all : List CallerField := [.id, .email, .name, .role]

/-- The name of the header field. -/
def fieldName : CallerField → Text
  | .id => "x-user-id".toList
  | .email => "x-user-email".toList
  | .name => "x-user-name".toList
  | .role => "x-user-role".toList

/-- What the field says about a caller. -/
def valueText : CallerField → Caller → Text
  | .id, c => c.id
  | .email, c => c.emailText
  | .name, c => c.nameText
  | .role, c => c.roleText

/-- The value of the field, unless it holds a control character. -/
def value? (f : CallerField) (c : Caller) : Option Bytes :=
  let octets := Utf8.encode (f.valueText c)
  if octets.all isFieldOctet then some octets else none

/-- The sentence about a value that cannot be sent. -/
def unsendableMessage (f : CallerField) : Text :=
  "identity value for ".toList ++ f.fieldName ++ " cannot be sent as a header".toList

end CallerField

namespace Crossing

/-- The fields that describe one connection only. -/
def connectionFields : List Text :=
  [FieldName.connection, FieldName.keepAlive, FieldName.proxyConnection,
    FieldName.transferEncoding, FieldName.upgrade]

/-- The fields of a request that stay behind. -/
def heldBack : List Text :=
  [FieldName.host, FieldName.contentLength] ++ connectionFields ++
    CallerField.all.map CallerField.fieldName

/-- The fields about a caller, or the first that cannot be sent. -/
def callerFields (caller : Caller) : List CallerField → Except CallerField Fields
  | [] => .ok []
  | f :: rest =>
    match f.value? caller with
    | none => .error f
    | some value => (callerFields caller rest).map (⟨f.fieldName, value⟩ :: ·)

/-- The fields of the request to the backend. -/
def outbound (inbound : Fields) (caller : Option Caller) : Except CallerField Fields :=
  match caller with
  | none => .ok (inbound.without heldBack)
  | some caller =>
    (callerFields caller CallerField.all).map (inbound.without heldBack ++ ·)

/-- The fields of the backend's answer that are passed on. -/
def relayed (fields : Fields) : Fields :=
  fields.without connectionFields

end Crossing

end JobsGateway
