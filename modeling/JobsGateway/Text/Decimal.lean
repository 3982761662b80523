import JobsGateway.Text.Utf8

/-!
# Natural numbers as text

`digits` writes a number in decimal, `hexDigits` in lower-case hexadecimal. `natural? base` reads
digits back, and `unsigned?` adds what a 64-bit field asks for: an optional plus sign, at least one
digit, and a value that fits.
-/

namespace JobsGateway.Text

/-- The decimal digits of `n`, without leading zeros. -/
def digits (n : Nat) : Text :=
  Nat.toDigits 10 n

/-- The hexadecimal digits of `n` in lower case, without leading zeros. -/
def hexDigits (n : Nat) : Text :=
  Nat.toDigits 16 n

/-- The value of a digit in bases up to 36, letters of either case. -/
def digitValue? (c : Char) : Option Nat :=
  if '0' ≤ c && c ≤ '9' then some (c.toNat - 48)
  else if 'a' ≤ c && c ≤ 'z' then some (c.toNat - 87)
  else if 'A' ≤ c && c ≤ 'Z' then some (c.toNat - 55)
  else none

/-- The value of `c` as a digit of `base`. -/
def digitIn? (base : Nat) (c : Char) : Option Nat :=
  (digitValue? c).filter (· < base)

/-- Reads further digits onto `value`; any other character is refused. -/
def naturalFrom? (base value : Nat) : Text → Option Nat
  | [] => some value
  | c :: rest => (digitIn? base c).bind fun d => naturalFrom? base (value * base + d) rest

/-- The number that a non-empty row of digits of `base` stands for. -/
def natural? (base : Nat) : Text → Option Nat
  | [] => none
  | c :: rest => naturalFrom? base 0 (c :: rest)

/-- One more than the largest value of a 64-bit field. -/
def word : Nat := Nat.pow 2 64

/-- A natural number below `2 ^ 64`: an optional `+`, then at least one decimal digit. -/
def unsigned? (text : Text) : Option Nat :=
  let body := match text with
    | '+' :: rest => rest
    | _ => text
  (natural? 10 body).filter (· < word)

end JobsGateway.Text
