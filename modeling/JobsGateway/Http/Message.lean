import JobsGateway.Http.Fields
import JobsGateway.Http.Status

/-!
# Requests and responses

A request arrives with its target split into path and query, and with a body that comes in chunks
and may break off. A response is whole.
-/

namespace JobsGateway

/-- What a request is for. `asterisk` is the target `*`, and `authority` a bare host, which has no
path. -/
inductive Target where
  | path (path : Text) (query : Option Text)
  | asterisk
  | authority
  deriving Repr, DecidableEq, Inhabited

/-- The body of a request as it arrives: its chunks, and the message of the fault that ends it
before its time, if there is one. -/
structure BodyStream where
  chunks : List Bytes
  fault : Option Text
  deriving Repr, DecidableEq, Inhabited

/-- A request that has arrived. -/
structure Request where
  method : Text
  target : Target
  fields : Fields
  body : BodyStream
  deriving Repr, DecidableEq, Inhabited

/-- A whole response. -/
structure Response where
  status : Status
  fields : Fields
  body : Bytes
  deriving Repr, DecidableEq, Inhabited

namespace Target

/-- The path of a target as it is written. -/
def pathText : Target → Text
  | .path p _ => p
  | .asterisk => ['*']
  | .authority => []

/-- The query of a target, without the question mark. -/
def query : Target → Option Text
  | .path _ q => q
  | _ => none

/-- Path and query from their joint text. -/
def ofPathAndQuery (text : Text) : Target :=
  let path := text.takeWhile (· != '?')
  .path (if path = [] then ['/'] else path)
    (match text.dropWhile (· != '?') with
      | _ :: query => some query
      | [] => none)

/-- Drops a scheme and an authority in front, if there is one. -/
def afterAuthority? (text : Text) : Option Text :=
  match text.dropWhile fun c => c.isAlphanum || c == '+' || c == '-' || c == '.' with
  | ':' :: '/' :: '/' :: rest => some (rest.dropWhile fun c => c != '/' && c != '?')
  | _ => none

/-- Reads the target of a request: a path, a URL, an asterisk or a host. A fragment is dropped. -/
def read (text : Text) : Target :=
  let text := text.takeWhile (· != '#')
  match text with
  | ['*'] => .asterisk
  | '/' :: _ => ofPathAndQuery text
  | _ =>
    match afterAuthority? text with
    | some rest => ofPathAndQuery rest
    | none => .authority

end Target

namespace Method

def get : Text := "GET".toList
def head : Text := "HEAD".toList
def post : Text := "POST".toList
def put : Text := "PUT".toList
def patch : Text := "PATCH".toList
def delete : Text := "DELETE".toList
def connect : Text := "CONNECT".toList

/-- Whether a request of this method is passed on with its body. -/
def carriesBody (method : Text) : Bool :=
  method = post || method = put || method = patch

end Method

namespace Response

/-- A response without fields and body. -/
def bare (status : Status) : Response :=
  ⟨status, [], []⟩

/-- A response with one content type. -/
def typed (status : Status) (contentType : String) (body : Bytes) : Response :=
  ⟨status, [⟨FieldName.contentType, octets contentType⟩], body⟩

/-- The content type, if it is plain text. -/
def contentType? (r : Response) : Option Text :=
  (r.fields.first? FieldName.contentType).bind visibleText?

end Response

end JobsGateway
