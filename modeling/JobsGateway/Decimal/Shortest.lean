import JobsGateway.Decimal.Double
import JobsGateway.Text.Decimal

/-!
# The shortest decimal of a double

A double stands for every real number that rounds to it. Of the decimals among them the one with
the fewest digits is taken, and of those the nearest. For each count of digits from one up only the
two neighbours of the value on that decimal grid can be it: if any point of the grid rounds to the
double, one of these two does.

Two ways to write the decimal follow: with all its places, and with an exponent where that gets
long.
-/

namespace JobsGateway

/-- The number `digits * 10 ^ exponent`. -/
structure Decimal where
  digits : Nat
  exponent : Int
  deriving Repr, DecidableEq, Inhabited

namespace Double

/-- Whether `c * 10 ^ e ≤ x * 2 ^ q`. -/
def decimalLe (c : Nat) (e : Int) (x : Nat) (q : Int) : Bool :=
  c * powerUp 10 e * powerUp 2 (-q) ≤ x * powerUp 2 q * powerUp 10 (-e)

/-- Whether `x * 2 ^ q ≤ c * 10 ^ e`. -/
def leDecimal (c : Nat) (e : Int) (x : Nat) (q : Int) : Bool :=
  x * powerUp 2 q * powerUp 10 (-e) ≤ c * powerUp 10 e * powerUp 2 (-q)

/-- Whether `c * 10 ^ e` rounds to the double. The ends of the interval belong to it if the
mantissa is even; below a power of two the interval is half as wide. -/
def roundsTo (d : Double) (c : Nat) (e : Int) : Bool :=
  let low := if d.mantissa = Nat.pow 2 52 && d.exponent != -1074 then 4 * d.mantissa - 1
    else 4 * d.mantissa - 2
  let high := 4 * d.mantissa + 2
  let q := d.exponent - 2
  if d.mantissa % 2 = 0 then leDecimal c e low q && decimalLe c e high q
  else !decimalLe c e low q && !leDecimal c e high q

/-- The exponent of the largest power of ten that is not above a positive double. -/
def floorLog10 (d : Double) : Int :=
  if d.den ≤ d.num then ((Nat.toDigits 10 (d.num / d.den)).length : Int) - 1
  else -((Nat.toDigits 10 ((d.den - 1) / d.num)).length : Int)

/-- The largest multiple of `10 ^ e` that is not above the double, in units of `10 ^ e`. -/
def floorUnits (d : Double) (e : Int) : Nat :=
  d.num * powerUp 10 (-e) / (d.den * powerUp 10 e)

/-- The multiple of `10 ^ e` nearest to the double among those that round to it. -/
def onGrid? (d : Double) (e : Int) : Option Decimal :=
  let below := d.floorUnits e
  let low := d.roundsTo below e
  let high := d.roundsTo (below + 1) e
  -- the middle between both neighbours, in units of half a step
  let nearerLow := decimalLe (2 * below + 1) e (2 * d.mantissa) d.exponent = false
  if low && (nearerLow || !high) then some ⟨below, e⟩
  else if high then some ⟨below + 1, e⟩
  else none

/-- Tries grids with one more digit each time, at most `more` of them. -/
def shortestFrom (d : Double) (e : Int) : Nat → Decimal
  | 0 => ⟨d.floorUnits e, e⟩
  | more + 1 =>
    match d.onGrid? e with
    | some decimal => decimal
    | none => shortestFrom d (e - 1) more

/-- The shortest decimal that rounds to the double. -/
def shortest (d : Double) : Decimal :=
  if d.mantissa = 0 then ⟨0, 0⟩ else shortestFrom d d.floorLog10 17

end Double

namespace Decimal

/-- The digits without zeros at their end, and the exponent that makes up for them. -/
def reduced (d : Decimal) : Text × Int :=
  if d.digits = 0 then (['0'], 0)
  else
    let ds := Text.digits d.digits
    let kept := (ds.reverse.dropWhile (· == '0')).reverse
    (kept, d.exponent + (ds.length - kept.length : Nat))

/-- The decimal with all its places, and with at least one after the point. -/
def positional (d : Decimal) : Text :=
  let (ds, e) := d.reduced
  if 0 ≤ e then ds ++ List.replicate e.toNat '0' ++ ['.', '0']
  else
    let places := (-e).toNat
    if places < ds.length then
      ds.take (ds.length - places) ++ '.' :: ds.drop (ds.length - places)
    else ['0', '.'] ++ List.replicate (places - ds.length) '0' ++ ds

/-- One digit before the point, the others after it, and an exponent with its sign. -/
def scientific (d : Decimal) : Text :=
  let (ds, e) := d.reduced
  let power : Int := e + (ds.length : Int) - 1
  let mantissa := match ds with
    | first :: second :: rest => first :: '.' :: second :: rest
    | _ => ds
  mantissa ++ 'e' :: (if power < 0 then '-' else '+') :: Text.digits power.natAbs

/-- Positional from `10 ^ -5` up to `10 ^ 16`, otherwise with an exponent. -/
def compact (d : Decimal) : Text :=
  let (ds, e) := d.reduced
  let power : Int := e + (ds.length : Int) - 1
  if -5 ≤ power && power < 16 then d.positional else d.scientific

end Decimal

end JobsGateway
