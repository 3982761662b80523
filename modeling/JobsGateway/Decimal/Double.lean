/-!
# Double-precision numbers

A finite double without its sign is a mantissa times a power of two. The mantissa is below
`2 ^ 53`, and the exponent is at least `-1074`. `nearest?` rounds a quotient of two natural numbers
to the nearest double, a tie to the even mantissa; it has no result where the quotient is too
large. Everything is computed in natural numbers, without rounding on the way.
-/

namespace JobsGateway

/-- The double `mantissa * 2 ^ exponent`. -/
structure Double where
  mantissa : Nat
  exponent : Int
  deriving Repr, DecidableEq, Inhabited

namespace Double

/-- `base ^ e` for a positive `e`, and 1 for any other. -/
def powerUp (base : Nat) (e : Int) : Nat :=
  base.pow e.toNat

/-- The quotient rounded to the nearest natural number, a tie to the even one. -/
def roundDiv (num den : Nat) : Nat :=
  let q := num / den
  let twice := 2 * (num % den)
  if twice < den then q
  else if den < twice then q + 1
  else q + q % 2

/-- The exponent of the largest power of two that is not above `num / den`. -/
def floorLog2 (num den : Nat) : Int :=
  let k : Int := (num.log2 : Int) - (den.log2 : Int)
  if den * powerUp 2 k ≤ num * powerUp 2 (-k) then k else k - 1

/-- The nearest double, or `none` if it would be `2 ^ 1024` or more. -/
def nearest? (num den : Nat) : Option Double :=
  if num = 0 then some ⟨0, -1074⟩
  else
    let q := max (floorLog2 num den - 52) (-1074)
    let m := roundDiv (num * powerUp 2 (-q)) (den * powerUp 2 q)
    let d : Double := if m = Nat.pow 2 53 then ⟨Nat.pow 2 52, q + 1⟩ else ⟨m, q⟩
    if d.exponent ≤ 971 then some d else none

/-- The nearest double to a natural number. -/
def ofNat? (n : Nat) : Option Double :=
  nearest? n 1

/-- The nearest double to `digits * 10 ^ exponent`. Beyond the exponents that can matter the answer
is known without any power of ten. -/
def ofDecimal? (digits : Nat) (exponent : Int) : Option Double :=
  let top : Int := exponent + (Nat.toDigits 10 digits).length
  if digits = 0 then some ⟨0, -1074⟩
  else if 400 < top then none
  else if top < -400 then some ⟨0, -1074⟩
  else nearest? (digits * powerUp 10 exponent) (powerUp 10 (-exponent))

/-- The numerator of a double. -/
def num (d : Double) : Nat :=
  d.mantissa * powerUp 2 d.exponent

/-- The denominator of a double. -/
def den (d : Double) : Nat :=
  powerUp 2 (-d.exponent)

/-- The product, rounded. -/
def mul? (a b : Double) : Option Double :=
  nearest? (a.num * b.num) (a.den * b.den)

/-- The quotient by a number that is not zero, rounded. -/
def div? (a b : Double) : Option Double :=
  nearest? (a.num * b.den) (a.den * b.num)

end Double

end JobsGateway
