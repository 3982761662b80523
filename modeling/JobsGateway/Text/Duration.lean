import JobsGateway.Text.Decimal

/-!
# Lengths of time

A timeout counts whole milliseconds. It is shown in seconds with as many decimals as it needs, in
milliseconds below one second, and as `0ns` when it is nothing.
-/

namespace JobsGateway

/-- A length of time in milliseconds. -/
structure Duration where
  millis : Nat
  deriving Repr, DecidableEq, Inhabited

namespace Duration

/-- A whole number of seconds. -/
def ofSeconds (seconds : Nat) : Duration :=
  ⟨seconds * 1000⟩

/-- Three digits of a number below 1000. -/
def threeDigits (n : Nat) : Text :=
  Text.digits (n / 100 % 10) ++ Text.digits (n / 10 % 10) ++ Text.digits (n % 10)

/-- The decimals of a second, without zeros at the end, and the point before them. -/
def decimals (millis : Nat) : Text :=
  match ((threeDigits millis).reverse.dropWhile (· == '0')).reverse with
  | [] => []
  | ds => '.' :: ds

/-- A length of time as it is shown. -/
def text (d : Duration) : Text :=
  if d.millis == 0 then "0ns".toList
  else if d.millis < 1000 then Text.digits d.millis ++ "ms".toList
  else Text.digits (d.millis / 1000) ++ decimals (d.millis % 1000) ++ ['s']

end Duration

end JobsGateway
