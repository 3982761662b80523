import JobsGateway.Json.Printer

/-!
# Who the caller is

A caller has an id, and perhaps an email address, a name and a role. Where something is told about
the caller, an unknown email or name is empty, and a role that is unknown or empty is `user`.
-/

namespace JobsGateway

/-- An authenticated caller. -/
structure Caller where
  id : Text
  email : Option Text
  name : Option Text
  role : Option Text
  deriving Repr, DecidableEq, Inhabited

namespace Caller

/-- A caller of whom only the id is known. -/
def ofId (id : Text) : Caller :=
  ⟨id, none, none, none⟩

/-- The email address, or nothing. -/
def emailText (c : Caller) : Text :=
  c.email.getD []

/-- The name, or nothing. -/
def nameText (c : Caller) : Text :=
  c.name.getD []

/-- The role that counts: `user` unless there is a role with some text. -/
def roleText (c : Caller) : Text :=
  (c.role.filter (· != [])).getD "user".toList

/-- The record of a caller as a JSON object. -/
def json (c : Caller) : Text :=
  Json.object [
    ("id".toList, Json.string c.id),
    ("email".toList, Json.string? c.email),
    ("name".toList, Json.string? c.name),
    ("role".toList, Json.string? c.role)]

end Caller

end JobsGateway
