import JobsGateway.Url.Basic

/-!
# IPv4 addresses

A host whose last part is a number must be an IPv4 address. Its one to four parts are written in
decimal, octal (`0`) or hexadecimal (`0x`), and the last part fills all octets that are left. An
address is written as four decimal octets.
-/

namespace JobsGateway.Ipv4

/-- What a part of a host says as a number. -/
inductive Part where
  | number (value : Nat)
  | noNumber
  deriving Repr, DecidableEq

/-- Reads the digits of a part in a base; no digit at all is zero. -/
def readDigits (base : Nat) (text : Text) : Part :=
  match Text.naturalFrom? base 0 text with
  | some n => .number n
  | none => .noNumber

/-- The number that a part of a host stands for. -/
def readPart : Text → Part
  | [] => .noNumber
  | '0' :: 'x' :: rest => readDigits 16 rest
  | '0' :: 'X' :: rest => readDigits 16 rest
  | '0' :: c :: rest => readDigits 8 (c :: rest)
  | text => readDigits 10 text

/-- The parts of a host; a dot at the end closes the last part. -/
def parts (host : Text) : List Text :=
  let all := host.splitOn '.'
  if all.getLast? = some [] then all.dropLast else all

/-- The last part of the host is a number, or at least a row of decimal digits. -/
def endsInNumber (host : Text) : Bool :=
  match (parts host).getLast? with
  | some part => (part != [] && part.all Char.isDigit) || readPart part != .noNumber
  | none => false

/-- The numbers of all parts, if each is one. -/
def readParts : List Text → Option (List Nat)
  | [] => some []
  | part :: rest =>
    match readPart part with
    | .number n => (readParts rest).map (n :: ·)
    | .noNumber => none

/-- Puts the leading octets before the number that fills the octets left. `place` is how many
octets are left. -/
def compose? (place : Nat) : List Nat → Option Nat
  | [] => none
  | [last] => if last < Nat.pow 256 place then some last else none
  | octet :: rest =>
    if octet < 256 then
      (compose? (place - 1) rest).map (octet * Nat.pow 256 (place - 1) + ·)
    else none

/-- The address that a host spells. -/
def read? (host : Text) : Option Nat :=
  let ps := parts host
  if ps.length ≤ 4 then (readParts ps).bind (compose? 4) else none

/-- Four decimal octets with dots between them. -/
def write (address : Nat) : Text :=
  Text.digits (address / 16777216 % 256) ++ '.' :: Text.digits (address / 65536 % 256) ++
    '.' :: Text.digits (address / 256 % 256) ++ '.' :: Text.digits (address % 256)

end JobsGateway.Ipv4
