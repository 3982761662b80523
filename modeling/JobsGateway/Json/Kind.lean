import JobsGateway.Decimal.Shortest
import JobsGateway.Json.Reader

/-!
# Values of the wrong kind

Where a string is asked for and something else stands, the message names what was found. A number
is named by its value: a whole number that fits in 64 bits as it is, any other as a double.
-/

namespace JobsGateway.Json

/-! ## Numbers -/

/-- The digits of a number so far: their value as long as it fits in 64 bits, and how many digits
after these were left out. -/
structure Significand where
  value : Nat
  dropped : Nat

/-- Takes up the digits at the front of a number. -/
def Significand.ofDigits (value : Nat) : Bytes → Significand
  | [] => ⟨value, 0⟩
  | b :: rest =>
    let next := value * 10 + (b.toNat - 0x30)
    if next < Text.word then ofDigits next rest else ⟨value, rest.length + 1⟩

/-- Divides by `10 ^ 308` until the rest of the power is in reach. A number that has become zero
stays zero. -/
def divideOut (d : Double) (power : Nat) : Double :=
  if d.mantissa = 0 then d
  else
    match Double.ofDecimal? 1 (min power 308) with
    | none => d
    | some divisor =>
      let d := (d.div? divisor).getD d
      if _h : 308 < power then divideOut d (power - 308) else d
termination_by power
decreasing_by exact Nat.sub_lt (Nat.lt_trans (by decide) _h) (by decide)

/-- The double that a number stands for: its digits as a double, multiplied or divided by a power
of ten as a double. -/
def double? (significand : Nat) (exponent : Int) : Option Double := do
  let d ← Double.ofNat? significand
  if exponent < 0 then pure (divideOut d exponent.natAbs)
  else if significand = 0 then pure d
  else if 308 < exponent then none
  else d.mul? (← Double.ofDecimal? 1 exponent)

/-- A double as a value that was found. -/
def foundFloat (negative : Bool) (d : Double) : Found :=
  .float ((if negative then ['-'] else []) ++ d.shortest.compact)

/-- A number with a fraction or an exponent, or one that is too large for 64 bits. -/
def finishFloat (negative : Bool) (significand : Nat) (exponent : Int) (rest : Bytes) :
    Except Fault (Found × Bytes) :=
  match double? significand exponent with
  | some d => .ok (foundFloat negative d, rest)
  | none => .error (.here .numberTooLarge rest)

/-- The largest exponent that is read to its end, plus one. -/
def exponentLimit : Nat := Nat.pow 2 31

/-- Reads the digits of an exponent onto `value`. One that is too large makes the number zero or
refuses it at once. -/
def readExponentDigits (negative negativeExponent : Bool) (significand : Nat) (base : Int)
    (value : Nat) : Bytes → Except Fault (Found × Bytes)
  | [] =>
    finishFloat negative significand (if negativeExponent then base - value else base + value) []
  | b :: rest =>
    if isDigit b then
      let next := value * 10 + (b.toNat - 0x30)
      if next < exponentLimit then
        readExponentDigits negative negativeExponent significand base next rest
      else if significand != 0 && !negativeExponent then .error (.here .numberTooLarge rest)
      else .ok (foundFloat negative ⟨0, -1074⟩, skipDigits rest)
    else
      finishFloat negative significand (if negativeExponent then base - value else base + value)
        (b :: rest)

/-- Reads an exponent after its letter. -/
def readExponent (negative : Bool) (significand : Nat) (base : Int) (s : Bytes) :
    Except Fault (Found × Bytes) :=
  let negativeExponent := s.head? = some 0x2D
  match skipSign s with
  | [] => .error (.here .endInValue [])
  | b :: rest =>
    if isDigit b then
      readExponentDigits negative negativeExponent significand base (b.toNat - 0x30) rest
    else .error (.here .invalidNumber rest)

/-- Reads the exponent of a float, if there is one. -/
def readExponentPart (negative : Bool) (significand : Nat) (base : Int) :
    Bytes → Except Fault (Found × Bytes)
  | b :: rest =>
    if isExponentMark b then readExponent negative significand base rest
    else finishFloat negative significand base (b :: rest)
  | [] => finishFloat negative significand base []

/-- Reads a fraction after its point. -/
def readFraction (negative : Bool) (whole : Significand) (s : Bytes) :
    Except Fault (Found × Bytes) :=
  let digits := s.takeWhile isDigit
  match digits, s with
  | [], [] => .error (.next .endInValue [])
  | [], b :: rest => .error (.next .invalidNumber (b :: rest))
  | _, _ =>
    let all := Significand.ofDigits whole.value digits
    readExponentPart negative all.value
      (whole.dropped - ((digits.length - all.dropped : Nat) : Int)) (skipDigits s)

/-- A whole number as it was found; below `-2 ^ 63`, and for minus zero, as a double. -/
def foundWhole (negative : Bool) (value : Nat) (rest : Bytes) : Except Fault (Found × Bytes) :=
  if negative && (value = 0 || Nat.pow 2 63 < value) then finishFloat true value 0 rest
  else .ok (.integer negative value, rest)

/-- Reads what follows the whole digits of a number. -/
def readAfterWhole (negative : Bool) (whole : Significand) : Bytes → Except Fault (Found × Bytes)
  | [] =>
    if whole.dropped = 0 then foundWhole negative whole.value []
    else finishFloat negative whole.value whole.dropped []
  | b :: rest =>
    if b = 0x2E then readFraction negative whole rest
    else if isExponentMark b then readExponent negative whole.value whole.dropped rest
    else if whole.dropped = 0 then foundWhole negative whole.value (b :: rest)
    else finishFloat negative whole.value whole.dropped (b :: rest)

/-- Reads a number after its sign. -/
def readNumber (negative : Bool) : Bytes → Except Fault (Found × Bytes)
  | [] => .error (.here .endInValue [])
  | b :: rest =>
    if b = 0x30 then
      if rest.head?.any isDigit then .error (.next .invalidNumber rest)
      else readAfterWhole negative ⟨0, 0⟩ rest
    else if isDigit b then
      readAfterWhole negative (Significand.ofDigits 0 ((b :: rest).takeWhile isDigit))
        (skipDigits rest)
    else .error (.here .invalidNumber rest)

/-! ## The fault -/

/-- Reads far enough to name the value that starts with `b`. -/
def readFound (b : UInt8) (rest : Bytes) : Except Fault (Found × Bytes) :=
  if b = 0x6E then (readWord (octets "ull") rest).map (Found.null, ·)
  else if b = 0x74 then (readWord (octets "rue") rest).map (Found.boolean true, ·)
  else if b = 0x66 then (readWord (octets "alse") rest).map (Found.boolean false, ·)
  else if b = 0x2D then readNumber true rest
  else if isDigit b then readNumber false (b :: rest)
  else if b = 0x22 then (readText rest).map fun p => (Found.string p.1, p.2)
  else if b = 0x5B then .ok (.sequence, b :: rest)
  else if b = 0x7B then .ok (.map, b :: rest)
  else .error (.next .expectedValue (b :: rest))

/-- The fault of a value that is not what was `expected`. -/
def wrongKind (expected : String) (b : UInt8) (rest : Bytes) : Fault :=
  match readFound b rest with
  | .error e => e
  | .ok (found, rest) => .here (.wrongKind found expected) rest

/-- Reads a string after blanks. -/
def readString (s : Bytes) : Except Fault (Text × Bytes) :=
  match skipSpace s with
  | [] => .error (.next .endInValue [])
  | b :: rest => if b = 0x22 then readText rest else .error (wrongKind "a string" b rest)

theorem readString_length {s rest : Bytes} {text : Text} (h : readString s = .ok (text, rest)) :
    rest.length < s.length := by
  unfold readString at h
  have hs := skipSpace_length s
  split at h
  · simp at h
  · rename_i b tail hb
    simp only [hb, List.length_cons] at hs
    split at h
    · have := readText_length h
      omega
    · simp at h

/-- Reads a string or `null` after blanks. -/
def readString? (s : Bytes) : Except Fault (Option Text × Bytes) :=
  match skipSpace s with
  | [] => .error (.next .endInValue [])
  | b :: rest =>
    if b = 0x6E then (readWord (octets "ull") rest).map (none, ·)
    else (readString (b :: rest)).map fun p => (some p.1, p.2)

theorem readString?_length {s rest : Bytes} {text : Option Text}
    (h : readString? s = .ok (text, rest)) : rest.length < s.length := by
  unfold readString? at h
  have hs := skipSpace_length s
  split at h
  · simp at h
  · rename_i b tail hb
    simp only [hb, List.length_cons] at hs
    split at h
    · cases hw : readWord (octets "ull") tail with
      | error e => simp [hw, Except.map] at h
      | ok r =>
        have := readWord_length hw
        simp only [hw, Except.map, Except.ok.injEq, Prod.mk.injEq] at h
        simp only [← h.2]
        omega
    · cases hw : readString (b :: tail) with
      | error e => simp [hw, Except.map] at h
      | ok p =>
        obtain ⟨_, _⟩ := p
        have := readString_length hw
        simp only [List.length_cons] at this
        simp only [hw, Except.map, Except.ok.injEq, Prod.mk.injEq] at h
        simp only [← h.2]
        omega

end JobsGateway.Json
