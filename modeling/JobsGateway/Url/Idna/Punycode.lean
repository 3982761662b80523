import JobsGateway.Text.Utf8

/-!
# Punycode

RFC 3492 writes a label in ASCII. Its ASCII characters come first, and after a hyphen stands a row
of numbers that says where the others go: in rising order of the characters, each number is the
distance from the last insertion to the next, counted over all places and characters between them.
A number is a row of base-36 digits, the lowest first, that ends with the first digit below its
threshold; the thresholds follow the size of the numbers before.
-/

namespace JobsGateway.Punycode

/-- Digits are the letters, then the decimal digits. -/
def digit (value : Nat) : Char :=
  if value < 26 then Char.ofNat (97 + value) else Char.ofNat (22 + value)

/-- The value of a digit; letters count in either case. -/
def digitValue? (c : Char) : Option Nat :=
  if 'a' ≤ c && c ≤ 'z' then some (c.toNat - 97)
  else if 'A' ≤ c && c ≤ 'Z' then some (c.toNat - 65)
  else if '0' ≤ c && c ≤ '9' then some (c.toNat - 22)
  else none

/-- The threshold of the digit at weight step `k`: between 1 and 26. -/
def threshold (k bias : Nat) : Nat :=
  max 1 (min 26 (k - bias))

/-- How many times the distance is cut down, 36 for each time, and what is left of it. -/
def reduce (k distance : Nat) : Nat :=
  if 455 < distance then reduce (k + 36) (distance / 35)
  else k + 36 * distance / (distance + 38)
termination_by distance

/-- The bias after a distance was written for a text that now has `count` characters. -/
def adapt (distance count : Nat) (first : Bool) : Nat :=
  let halved := if first then distance / 700 else distance / 2
  reduce 0 (halved + halved / count)

/-- The digits of a number. -/
def writeNumber (bias k value : Nat) : Text :=
  let t := threshold k bias
  if value < t then [digit value]
  else digit (t + (value - t) % (36 - t)) :: writeNumber bias (k + 36) ((value - t) / (36 - t))
termination_by value
decreasing_by
  have one : 1 ≤ threshold k bias := by simp only [threshold]; omega
  exact Nat.lt_of_le_of_lt (Nat.div_le_self _ _) (by omega)

/-! ## Writing -/

/-- A label half written: the digits so far, the distance since the last insertion, the bias, and
how many characters are in place. -/
structure Writing where
  digits : Text
  distance : Nat
  bias : Nat
  placed : Nat

/-- Passes over one character of the label while the insertions of `point` are written. `basic` is
the number of ASCII characters. -/
def Writing.pass (basic point : Nat) (w : Writing) (c : Char) : Writing :=
  if c.toNat < point then { w with distance := w.distance + 1 }
  else if c.toNat == point then
    { digits := w.digits ++ writeNumber w.bias 36 w.distance
      distance := 0
      bias := adapt w.distance (w.placed + 1) (w.placed == basic)
      placed := w.placed + 1 }
  else w

/-- Writes the insertions of each of the given characters, which rise from `next` on. -/
def Writing.run (label : Text) (basic : Nat) : Nat → List Nat → Writing → Writing
  | _, [], w => w
  | next, point :: points, w =>
    let skipped := { w with distance := w.distance + (point - next) * (w.placed + 1) }
    let passed := label.foldl (Writing.pass basic point) skipped
    run label basic (point + 1) points { passed with distance := passed.distance + 1 }

/-- Puts a number in its place in a rising list, once. -/
def insertPoint (n : Nat) : List Nat → List Nat
  | [] => [n]
  | m :: rest =>
    if n < m then n :: m :: rest
    else if n = m then m :: rest
    else m :: insertPoint n rest

/-- The characters of a label outside ASCII, in rising order and each once. -/
def points (label : Text) : List Nat :=
  (label.filter (128 ≤ ·.toNat)).foldr (fun c rest => insertPoint c.toNat rest) []

/-- The ASCII form of a label, without the mark that it is one. -/
def encode (label : Text) : Text :=
  let basic := label.filter (·.toNat < 128)
  let start : Writing := ⟨[], 0, 72, basic.length⟩
  let lead := if basic.isEmpty then [] else basic ++ ['-']
  lead ++ (Writing.run label basic.length 128 (points label) start).digits

/-! ## Reading -/

/-- A label half read: the characters in place, the next character and the place it would go to,
and the bias. While a number is read, `value` is its digits so far, `weight` that of the next
digit and `k` its step. -/
structure Reading where
  label : Text
  point : Nat
  place : Nat
  bias : Nat
  value : Nat
  weight : Nat
  k : Nat

/-- Inserts the character that the number just read stands for. -/
def Reading.insert? (r : Reading) (value : Nat) : Option Reading :=
  let count := r.label.length + 1
  let total := r.place + value
  let point := r.point + total / count
  let place := total % count
  if point < 0x110000 && !(0xD800 ≤ point && point ≤ 0xDFFF) && total < Nat.pow 2 32 then
    some
      { label := r.label.take place ++ Char.ofNat point :: r.label.drop place
        point := point
        place := place + 1
        bias := adapt value count (r.place == 0)
        value := 0
        weight := 1
        k := 36 }
  else none

/-- Reads the digits that are left. They must end with a whole number. -/
def Reading.run (r : Reading) : Text → Option Text
  | [] => if r.k == 36 then some r.label else none
  | c :: rest =>
    match digitValue? c with
    | none => none
    | some d =>
      let value := r.value + d * r.weight
      let t := threshold r.k r.bias
      if d < t then
        match r.insert? value with
        | some next => next.run rest
        | none => none
      else { r with value := value, weight := r.weight * (36 - t), k := r.k + 36 }.run rest

/-- The text before the last hyphen, and the text after it. Without a hyphen, or with one only at
the very front, all of it comes after. -/
def cutBasic (text : Text) : Text × Text :=
  let after := (text.reverse.takeWhile (· != '-')).reverse
  let before := text.take (text.length - after.length - 1)
  if before.isEmpty then ([], text) else (before, after)

/-- The label that an ASCII form stands for. -/
def decode? (text : Text) : Option Text :=
  let (basic, numbers) := cutBasic text
  let start : Reading := ⟨basic, 128, 0, 72, 0, 1, 36⟩
  start.run numbers

end JobsGateway.Punycode
