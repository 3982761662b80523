import JobsGateway.Decimal.Shortest
import JobsGateway.Yaml.Event

/-!
# What scalars mean

A plain scalar may spell nothing, a truth value, a whole number or a decimal one; any other scalar
is text. A number with zeros in front is text. A tag can ask for one of the four.
-/

namespace JobsGateway.Yaml

/-- A decimal number as it is spelt. -/
inductive Float64 where
  | finite (negative : Bool) (magnitude : Double)
  | infinite (negative : Bool)
  | notANumber
  deriving Repr, DecidableEq, Inhabited

/-- The meaning of a scalar. -/
inductive Value where
  | null
  | boolean (value : Bool)
  | integer (value : Int)
  | float (value : Float64)
  | text (text : Text)
  deriving Repr, DecidableEq, Inhabited

namespace CoreSchema

/-- The spellings of nothing. -/
def isNull (t : Text) : Bool :=
  ["null", "Null", "NULL", "~"].any fun s => s.toList = t

/-- The truth value that a text spells. -/
def boolean? (t : Text) : Option Bool :=
  if ["true", "True", "TRUE"].any fun s => s.toList = t then some true
  else if ["false", "False", "FALSE"].any fun s => s.toList = t then some false
  else none

/-- A text without a sign at its front. -/
def withoutSign : Text → Text
  | '+' :: rest => rest
  | '-' :: rest => rest
  | t => t

/-- Whether a text starts with a sign. -/
def isSigned : Text → Bool
  | '+' :: _ => true
  | '-' :: _ => true
  | _ => false

/-- Whether a text consists of digits, more than one, and starts with a zero. -/
def hasLeadingZero (t : Text) : Bool :=
  match withoutSign t with
  | '0' :: c :: rest => (c :: rest).all Char.isDigit
  | _ => false

/-- The number of a text after the mark of its base. -/
def based? : Text → Option Nat
  | '0' :: 'x' :: rest => Text.natural? 16 rest
  | '0' :: 'o' :: rest => Text.natural? 8 rest
  | '0' :: 'b' :: rest => Text.natural? 2 rest
  | _ => none

/-- The number that is spelt without a minus sign, if it is below a bound. -/
def natural? (bound : Nat) (t : Text) : Option Nat :=
  let body := match t with
    | '+' :: rest => rest
    | _ => t
  match (based? body).filter (· < bound) with
  | some n => some n
  | none =>
    if isSigned body || hasLeadingZero t then none
    else (Text.natural? 10 body).filter (· < bound)

/-- The magnitude of the number that is spelt with a minus sign, if it is not above a bound. -/
def negated? (bound : Nat) (t : Text) : Option Nat :=
  match t with
  | '-' :: body =>
    match (based? body).filter (· ≤ bound) with
    | some n => some n
    | none =>
      if hasLeadingZero t then none else (Text.natural? 10 body).filter (· ≤ bound)
  | _ => none

/-- The whole number that a text spells, if it fits in 128 bits. -/
def integer? (t : Text) : Option Int :=
  match natural? (Nat.pow 2 128) t with
  | some n => some (n : Int)
  | none => (negated? (Nat.pow 2 127) t).map fun n => -(n : Int)

/-- The exponent that a text spells after its letter. -/
def exponent? (t : Text) : Option Int :=
  match t with
  | '-' :: rest => (Text.natural? 10 rest).map fun n => -(n : Int)
  | '+' :: rest => (Text.natural? 10 rest).map fun n => (n : Int)
  | _ => (Text.natural? 10 t).map fun n => (n : Int)

/-- The digits of a decimal number without its sign, and the power of ten they are multiplied by. -/
def decimal? (t : Text) : Option (Nat × Int) :=
  let whole := t.takeWhile Char.isDigit
  let rest := t.dropWhile Char.isDigit
  let fraction := match rest with
    | '.' :: after => after.takeWhile Char.isDigit
    | _ => []
  let rest := match rest with
    | '.' :: after => after.dropWhile Char.isDigit
    | _ => rest
  match Text.natural? 10 (whole ++ fraction) with
  | none => none
  | some digits =>
    match rest with
    | [] => some (digits, -(fraction.length : Int))
    | e :: after =>
      if e == 'e' || e == 'E' then
        (exponent? after).map fun n => (digits, n - (fraction.length : Int))
      else none

/-- The finite decimal number that a text spells. -/
def finite? (t : Text) : Option Float64 :=
  (decimal? (withoutSign t)).bind fun p =>
    (Double.ofDecimal? p.1 p.2).map (.finite (t.head? = some '-'))

/-- The decimal number that a text spells. -/
def float? (t : Text) : Option Float64 :=
  let body := match t with
    | '+' :: rest => rest
    | _ => t
  if t.head? = some '+' && isSigned body then none
  else if [".inf", ".Inf", ".INF"].any fun s => s.toList = body then some (.infinite false)
  else if ["-.inf", "-.Inf", "-.INF"].any fun s => s.toList = t then some (.infinite true)
  else if [".nan", ".NaN", ".NAN"].any fun s => s.toList = t then some .notANumber
  else finite? body

/-- The meaning of a plain scalar. -/
def ofPlain (t : Text) : Value :=
  if t = [] || isNull t then .null
  else match boolean? t with
    | some b => .boolean b
    | none =>
      match integer? t with
      | some n => .integer n
      | none =>
        match (if hasLeadingZero t then none else float? t) with
        | some f => .float f
        | none => .text t

/-- The full names of the tags for the four kinds of values. -/
def standardTag (name : String) : Text :=
  "tag:yaml.org,2002:".toList ++ name.toList

/-- What a tagged scalar is said to be and is not. -/
structure Mismatch where
  text : Text
  expected : String
  deriving Repr, DecidableEq, Inhabited

/-- The meaning of a scalar. -/
def ofScalar (s : Scalar) : Except Mismatch Value :=
  let plain := if s.style = .plain then ofPlain s.text else .text s.text
  let expect (expected : String) : Option Value → Except Mismatch Value
    | some v => .ok v
    | none => .error ⟨s.text, expected⟩
  match s.tag with
  | none => .ok plain
  | some tag =>
    if tag = standardTag "bool" then expect "a boolean" ((boolean? s.text).map .boolean)
    else if tag = standardTag "int" then expect "an integer" ((integer? s.text).map .integer)
    else if tag = standardTag "float" then expect "a float" ((float? s.text).map .float)
    else if tag = standardTag "null" then
      expect "null" (if isNull s.text then some .null else none)
    else if tag.head? = some '!' then .ok plain
    else .ok (.text s.text)

end CoreSchema

end JobsGateway.Yaml
