import JobsGateway.Text.Utf8

/-!
# Percent-encoding

Each part of a URL has a set of ASCII characters that may not stand in it as they are. Such a
character, and every character outside ASCII, is written as its octets, each a percent sign and two
hexadecimal digits in upper case. Encoding goes character by character and leaves the percent sign
alone, so what is encoded already stays as it is.
-/

namespace JobsGateway.Percent

/-- The controls: below the space, and from U+007F on. They are in every set. -/
def controls (c : Char) : Bool :=
  c.toNat < 0x20 || 0x7E < c.toNat

/-- What may not stand in a fragment. -/
def inFragment (c : Char) : Bool :=
  controls c || c == ' ' || c == '"' || c == '<' || c == '>' || c == '`'

/-- What may not stand in the query of a URL of no special scheme. -/
def inQuery (c : Char) : Bool :=
  controls c || c == ' ' || c == '"' || c == '#' || c == '<' || c == '>'

/-- What may not stand in the query of a special URL. -/
def inSpecialQuery (c : Char) : Bool :=
  inQuery c || c == '\''

/-- What may not stand in a path segment. -/
def inPath (c : Char) : Bool :=
  inFragment c || c == '#' || c == '?' || c == '\x7b' || c == '\x7d'

/-- What may not stand in a user name or password. -/
def inUserinfo (c : Char) : Bool :=
  inPath c || c == '/' || c == ':' || c == ';' || c == '=' || c == '@' || c == '[' || c == '\\' ||
    c == ']' || c == '^' || c == '|'

/-- The upper-case hexadecimal digit of `n < 16`. -/
def hexDigit (n : Nat) : Char :=
  if n < 10 then Char.ofNat (48 + n) else Char.ofNat (55 + n)

/-- One octet as a percent sign and two digits. -/
def escape (b : UInt8) : Text :=
  ['%', hexDigit (b.toNat / 16), hexDigit (b.toNat % 16)]

/-- One character, escaped if it is in the set. -/
def encodeChar (set : Char → Bool) (c : Char) : Text :=
  if set c then (String.utf8EncodeChar c).flatMap escape else [c]

/-- A text, each character escaped that is in the set. -/
def encode (set : Char → Bool) (text : Text) : Text :=
  text.flatMap (encodeChar set)

/-- The value of a hexadecimal digit. -/
def hexValue? (b : UInt8) : Option UInt8 :=
  if 0x30 ≤ b && b ≤ 0x39 then some (b - 0x30)
  else if 0x41 ≤ b && b ≤ 0x46 then some (b - 0x37)
  else if 0x61 ≤ b && b ≤ 0x66 then some (b - 0x57)
  else none

/-- Replaces each percent sign and two digits by the octet they stand for; any other percent sign
stays. -/
def decode : Bytes → Bytes
  | 0x25 :: a :: b :: rest =>
    match hexValue? a, hexValue? b with
    | some x, some y => (x * 16 + y) :: decode rest
    | _, _ => 0x25 :: decode (a :: b :: rest)
  | a :: rest => a :: decode rest
  | [] => []

@[simp] theorem encode_nil (set : Char → Bool) : encode set [] = [] := rfl

@[simp] theorem encode_cons (set : Char → Bool) (c : Char) (text : Text) :
    encode set (c :: text) = encodeChar set c ++ encode set text := by
  simp [encode]

@[simp] theorem encode_append (set : Char → Bool) (s t : Text) :
    encode set (s ++ t) = encode set s ++ encode set t := by
  simp [encode]

end JobsGateway.Percent
