import JobsGateway.Url.Domain
import JobsGateway.Url.Path

/-!
# Writing URLs

The parts of a URL are put together with the marks that the reader looks for. A path without
authority that starts with an empty segment gets `/.` in front, or it would be taken for an
authority.
-/

namespace JobsGateway

/-- User name and password with the `@` after them. -/
def Authority.userinfoText (a : Authority) : Text :=
  if a.username.isEmpty && a.password.isEmpty then []
  else a.username ++ (if a.password.isEmpty then [] else ':' :: a.password) ++ ['@']

/-- The host and the port number. -/
def Authority.hostText (a : Authority) : Text :=
  ((a.host.map Host.text).getD []) ++
    match a.portNumber with
    | some n => ':' :: Text.digits n
    | none => []

/-- An authority as it is written. -/
def Authority.text (a : Authority) : Text :=
  a.userinfoText ++ a.hostText

namespace Url

/-- What stands between the scheme's colon and the path. -/
def authorityText (u : Url) : Text :=
  match u.authority with
  | some a => '/' :: '/' :: a.text
  | none =>
    match u.path with
    | .segments ([] :: _ :: _) => ['/', '.']
    | _ => []

/-- The query with its question mark. -/
def queryText (u : Url) : Text :=
  match u.query with
  | some q => '?' :: q
  | none => []

/-- The fragment with its number sign. -/
def fragmentText (u : Url) : Text :=
  match u.fragment with
  | some f => '#' :: f
  | none => []

/-- A URL as it is written. -/
def text (u : Url) : Text :=
  u.scheme ++ ':' :: u.authorityText ++ u.path.text ++ u.queryText ++ u.fragmentText

/-- A URL as a string. -/
def toString (u : Url) : String :=
  String.ofList u.text

end Url

end JobsGateway
