/-!
# Octets and UTF-8

Header values, queries on the wire, bodies and files are octet strings. Text is a list of
characters. This module holds the passage between the two: `encode` is total, `decode?` refuses
whatever is not well-formed UTF-8 (overlong forms, surrogates, values above U+10FFFF, cut
sequences).
-/

namespace JobsGateway

/-- A string of octets, as it stands on the wire or in a file. -/
abbrev Bytes := List UInt8

/-- A piece of text under analysis, one character after the other. -/
abbrev Text := List Char

namespace Utf8

/-- The octets of a text. -/
def encode (text : Text) : Bytes :=
  text.flatMap String.utf8EncodeChar

/-- A continuation octet, `10xxxxxx`. -/
def isTail (b : UInt8) : Bool :=
  0x80 ≤ b && b ≤ 0xBF

/-- The range of the second octet of a three-octet sequence, which the first octet decides: it
shuts out overlong forms and surrogates. -/
def isSecondOfThree (first second : UInt8) : Bool :=
  if first == 0xE0 then 0xA0 ≤ second && second ≤ 0xBF
  else if first == 0xED then 0x80 ≤ second && second ≤ 0x9F
  else isTail second

/-- The range of the second octet of a four-octet sequence: it shuts out overlong forms and values
above U+10FFFF. -/
def isSecondOfFour (first second : UInt8) : Bool :=
  if first == 0xF0 then 0x90 ≤ second && second ≤ 0xBF
  else if first == 0xF4 then 0x80 ≤ second && second ≤ 0x8F
  else isTail second

/-- The low six bits of a continuation octet. -/
def tailBits (b : UInt8) : Nat :=
  b.toNat % 64

/-- The text that the octets encode, or `none` at the first octet that starts no well-formed
sequence. -/
def decode? : Bytes → Option Text
  | [] => some []
  | a :: rest =>
    if a < 0x80 then (decode? rest).map (Char.ofNat a.toNat :: ·)
    else match rest with
      | [] => none
      | b :: rest =>
        if 0xC2 ≤ a && a ≤ 0xDF && isTail b then
          (decode? rest).map (Char.ofNat (a.toNat % 32 * 64 + tailBits b) :: ·)
        else match rest with
          | [] => none
          | c :: rest =>
            if 0xE0 ≤ a && a ≤ 0xEF && isSecondOfThree a b && isTail c then
              (decode? rest).map
                (Char.ofNat (a.toNat % 16 * 4096 + tailBits b * 64 + tailBits c) :: ·)
            else match rest with
              | [] => none
              | d :: rest =>
                if 0xF0 ≤ a && a ≤ 0xF4 && isSecondOfFour a b && isTail c && isTail d then
                  (decode? rest).map (Char.ofNat
                    (a.toNat % 8 * 262144 + tailBits b * 4096 + tailBits c * 64 + tailBits d) :: ·)
                else none

/-- How many octets at the front form whole characters. -/
def validLength : Bytes → Nat
  | [] => 0
  | a :: rest =>
    if a < 0x80 then 1 + validLength rest
    else match rest with
      | [] => 0
      | b :: rest =>
        if 0xC2 ≤ a && a ≤ 0xDF && isTail b then 2 + validLength rest
        else match rest with
          | [] => 0
          | c :: rest =>
            if 0xE0 ≤ a && a ≤ 0xEF && isSecondOfThree a b && isTail c then 3 + validLength rest
            else match rest with
              | [] => 0
              | d :: rest =>
                if 0xF0 ≤ a && a ≤ 0xF4 && isSecondOfFour a b && isTail c && isTail d then
                  4 + validLength rest
                else 0

@[simp] theorem encode_nil : encode [] = [] := rfl

@[simp] theorem encode_cons (c : Char) (text : Text) :
    encode (c :: text) = String.utf8EncodeChar c ++ encode text := by
  simp [encode]

@[simp] theorem encode_append (s t : Text) : encode (s ++ t) = encode s ++ encode t := by
  simp [encode]

end Utf8

/-- The octets of a string. -/
def octets (s : String) : Bytes :=
  Utf8.encode s.toList

end JobsGateway
