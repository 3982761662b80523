import JobsGateway.Http.Message
import JobsGateway.Text.Base64
import JobsGateway.Url.Printer

/-!
# Requests that the gateway makes

A request is built before it is sent. User name and password in its URL are taken out and become
credentials of the Basic scheme, unless the fields bring credentials of their own. A URL without a
host cannot be asked for anything.

`deliver` says what the peer reads: the path and the query as target, and the fields that the client
adds for the host, for what it accepts and for the length of a body.
-/

namespace JobsGateway

/-- A request that is ready to be sent. -/
structure Outgoing where
  method : Text
  url : Url
  fields : Fields
  body : Option Bytes
  deriving Repr, DecidableEq, Inhabited

/-- A request as a peer has read it. -/
structure Delivery where
  method : Text
  target : Text
  fields : Fields
  body : Bytes
  deriving Repr, DecidableEq, Inhabited

namespace Url

/-- The URL without user name and password. -/
def withoutUserinfo (u : Url) : Url :=
  { u with authority := u.authority.map fun a => { a with username := [], password := [] } }

/-- A percent-encoded text as the text it stands for, if that is one. -/
def decodeText? (text : Text) : Option Text :=
  Utf8.decode? (Percent.decode (Utf8.encode text))

/-- The user name and password of a URL, decoded. A user name that does not decode to text hides
both; a password that does not is left out. -/
def userinfo? (u : Url) : Option (Text × Option Text) := do
  let a ← u.authority
  let username ← decodeText? a.username
  let password := if a.password = [] then none else decodeText? a.password
  if username = [] && password = none then none else some (username, password)

end Url

namespace Outgoing

/-- The value of the field for credentials of the Basic scheme. -/
def basic (username : Text) (password : Option Text) : Bytes :=
  octets "Basic " ++
    Utf8.encode (Base64.encode (Utf8.encode (username ++ ':' :: password.getD [])))

/-- Puts a request together, or refuses the URL because it has no host. -/
def build (method : Text) (url : Url) (fields : Fields) (body : Option Bytes) :
    Except Url Outgoing :=
  if url.host?.isNone then .error url
  else match url.userinfo? with
    | none => .ok ⟨method, url, fields, body⟩
    | some (username, password) =>
      .ok ⟨method, url.withoutUserinfo,
        fields.putNew FieldName.authorization (basic username password), body⟩

/-- The target of the request on the wire. -/
def target (r : Outgoing) : Text :=
  r.url.path.text ++ r.url.queryText

/-- The fields of the request on the wire. -/
def wireFields (r : Outgoing) : Fields :=
  let withAccept := r.fields.putNew FieldName.accept (octets "*/*")
  let withHost := withAccept.putNew FieldName.host
    (Utf8.encode ((r.url.authority.map Authority.hostText).getD []))
  match r.body with
  | some (b :: rest) =>
    withHost.putNew FieldName.contentLength (numberOctets (b :: rest).length)
  | _ => withHost

/-- What a peer reads of the request. -/
def deliver (r : Outgoing) : Delivery :=
  ⟨r.method, r.target, r.wireFields, r.body.getD []⟩

end Outgoing

end JobsGateway
