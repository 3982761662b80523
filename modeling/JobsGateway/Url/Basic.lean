import JobsGateway.Text.Decimal

/-!
# URLs

A URL as the URL Standard has it: a scheme, perhaps an authority (user, host and port number), a
path that is either a list of segments or bare text, and perhaps a query and a fragment. All
texts are kept in their written, percent-encoded form, so writing a URL (`Url.Printer`) only puts
them together, and what the reader (`Url.Parser`) has decided can be read off the fields.
-/

namespace JobsGateway

/-- Why a text is not a URL. -/
inductive UrlError where
  | emptyHost
  | invalidDomainName
  | invalidPortNumber
  | invalidIpv4
  | invalidIpv6
  | invalidDomainCharacter
  | relativeWithoutBase
  deriving Repr, DecidableEq, Inhabited

/-- The sentence that names the fault. -/
def UrlError.message : UrlError → String
  | .emptyHost => "empty host"
  | .invalidDomainName => "invalid international domain name"
  | .invalidPortNumber => "invalid port number"
  | .invalidIpv4 => "invalid IPv4 address"
  | .invalidIpv6 => "invalid IPv6 address"
  | .invalidDomainCharacter => "invalid domain character"
  | .relativeWithoutBase => "relative URL without a base"

/-- The host of an authority. A domain is kept in its ASCII form; an IPv6 address is the list of
its eight 16-bit pieces. -/
inductive Host where
  | domain (name : Text)
  | ipv4 (address : Nat)
  | ipv6 (pieces : List Nat)
  deriving Repr, DecidableEq, Inhabited

/-- The part of a URL between `//` and the path. The host is absent in `file:///etc`. -/
structure Authority where
  username : Text
  password : Text
  host : Option Host
  portNumber : Option Nat
  deriving Repr, DecidableEq, Inhabited

/-- The path of a URL. Each segment of a list is written with a slash before it. -/
inductive UrlPath where
  | segments (list : List Text)
  | bare (text : Text)
  deriving Repr, DecidableEq, Inhabited

/-- A URL. -/
structure Url where
  scheme : Text
  authority : Option Authority
  path : UrlPath
  query : Option Text
  fragment : Option Text
  deriving Repr, DecidableEq, Inhabited

namespace Url

/-- How a scheme changes the reading of the rest. -/
inductive SchemeKind where
  | file
  | special
  | plain
  deriving Repr, DecidableEq

/-- The port number that a scheme implies. -/
def defaultPort? (scheme : Text) : Option Nat :=
  match String.ofList scheme with
  | "http" | "ws" => some 80
  | "https" | "wss" => some 443
  | "ftp" => some 21
  | _ => none

/-- The kind of a scheme in lower case. -/
def SchemeKind.of (scheme : Text) : SchemeKind :=
  if scheme = "file".toList then .file
  else if (defaultPort? scheme).isSome then .special
  else .plain

/-- Special schemes always have a path and take a backslash for a slash. -/
def SchemeKind.isSpecial : SchemeKind → Bool
  | .plain => false
  | _ => true

/-- Whether a URL is asked for over HTTP, with or without encryption. -/
def isWeb (u : Url) : Bool :=
  u.scheme = "http".toList || u.scheme = "https".toList

/-- The host, where there is one. -/
def host? (u : Url) : Option Host :=
  u.authority.bind Authority.host

end Url

end JobsGateway
