import JobsGateway.Json.Reader

/-!
# What is a JSON text

The grammar of JSON, with the octets that a text consists of: which of them are
a value, and which members an object has. Inside a string any code point may be
written by its number, even half a pair of surrogates; a string stands for a text
if none of these is without its other half.
-/

namespace JobsGateway.Json

/-- Nothing but blanks. -/
def IsBlank (w : Bytes) : Prop :=
  ∀ b ∈ w, isSpace b = true

/-- A value with blanks around it. -/
inductive Padded : Bytes → Bytes → Prop
  | mk {w v w' : Bytes} : IsBlank w → IsBlank w' → Padded (w ++ (v ++ w')) v

/-! ## Strings -/

/-- The letters of escapes, with the characters that they stand for. -/
def letters : List (UInt8 × Char) :=
  [(0x22, '"'), (0x5C, '\\'), (0x2F, '/'), (0x62, '\x08'), (0x66, '\x0c'), (0x6E, '\n'),
    (0x72, '\r'), (0x74, '\t')]

/-- A hexadecimal digit, small or capital, counts its place among the digits. -/
def IsHexDigit (b : UInt8) (x : Nat) : Prop :=
  (octets "0123456789abcdef")[x]? = some b ∨ (octets "0123456789ABCDEF")[x]? = some b

instance (b : UInt8) (x : Nat) : Decidable (IsHexDigit b x) :=
  inferInstanceAs (Decidable (_ ∨ _))

/-- Four hexadecimal digits, with their number. -/
inductive IsHexNumber : UInt8 → UInt8 → UInt8 → UInt8 → Nat → Prop
  | mk {a b c d : UInt8} {x y z w : Nat} : IsHexDigit a x → IsHexDigit b y → IsHexDigit c z →
      IsHexDigit d w → IsHexNumber a b c d (((x * 16 + y) * 16 + z) * 16 + w)

/-- A code point inside a string, in each way that it may be written. -/
inductive Inner : Bytes → Nat → Prop
  | plain {c : Char} : 0x20 ≤ c.toNat → c ≠ '"' → c ≠ '\\' →
      Inner (String.utf8EncodeChar c) c.toNat
  | letter {b : UInt8} {c : Char} : (b, c) ∈ letters → Inner [0x5C, b] c.toNat
  | number {a b c d : UInt8} {n : Nat} : IsHexNumber a b c d n →
      Inner [0x5C, 0x75, a, b, c, d] n

/-- The inside of a string, with its code points. -/
inductive Inside : Bytes → List Nat → Prop
  | nil : Inside [] []
  | cons {s rest : Bytes} {n : Nat} {points : List Nat} :
      Inner s n → Inside rest points → Inside (s ++ rest) (n :: points)

/-- The text that code points stand for. Two surrogates are one character, and
one by itself is none. -/
def ofPoints? : List Nat → Option Text
  | [] => some []
  | n :: rest =>
    if isTrailing n then none
    else if isLeading n then
      match rest with
      | [] => none
      | m :: rest =>
        if isTrailing m then (ofPoints? rest).map (ofSurrogates n m :: ·) else none
    else (ofPoints? rest).map (Char.ofNat n :: ·)

/-- A value is a string that stands for a text. -/
def IsStringText (v : Bytes) (text : Text) : Prop :=
  ∃ s points, v = 0x22 :: (s ++ [0x22]) ∧ Inside s points ∧ ofPoints? points = some text

/-! ## Numbers -/

/-- The digits before the point, without zeros in front. -/
inductive IsWhole : Bytes → Prop
  | zero : IsWhole [0x30]
  | digits {b : UInt8} {ds : Bytes} : isDigit b = true → b ≠ 0x30 → (∀ d ∈ ds, isDigit d = true) →
      IsWhole (b :: ds)

/-- Some digits, at least one. -/
def IsDigits (ds : Bytes) : Prop :=
  ds ≠ [] ∧ ∀ d ∈ ds, isDigit d = true

/-- A fraction, or none. -/
inductive IsFraction : Bytes → Prop
  | none : IsFraction []
  | some {ds : Bytes} : IsDigits ds → IsFraction (0x2E :: ds)

/-- An exponent, or none. -/
inductive IsExponent : Bytes → Prop
  | none : IsExponent []
  | some {b : UInt8} {sign ds : Bytes} : isExponentMark b = true →
      (sign = [] ∨ sign = [0x2B] ∨ sign = [0x2D]) → IsDigits ds → IsExponent (b :: (sign ++ ds))

/-- A number. -/
inductive IsNumberText : Bytes → Prop
  | mk {sign whole fraction exponent : Bytes} : (sign = [] ∨ sign = [0x2D]) → IsWhole whole →
      IsFraction fraction → IsExponent exponent →
      IsNumberText (sign ++ (whole ++ (fraction ++ exponent)))

/-! ## Lists and objects -/

/-- Some items with commas between them, at least one. -/
inductive Items {α : Type} (P : Bytes → α → Prop) : Bytes → List α → Prop
  | last {s : Bytes} {a : α} : P s a → Items P s [a]
  | next {s rest : Bytes} {a : α} {items : List α} :
      P s a → Items P rest items → Items P (s ++ 0x2C :: rest) (a :: items)

/-- Any number of items with commas between them. -/
inductive Row {α : Type} (P : Bytes → α → Prop) : Bytes → List α → Prop
  | blank {w : Bytes} : IsBlank w → Row P w []
  | items {s : Bytes} {items : List α} : Items P s items → Row P s items

/-- A member of an object: the code points of its key, and its value as it is
written. -/
structure Member where
  key : List Nat
  value : Bytes

namespace Member

/-- How a member is written. -/
inductive IsWritten : Bytes → Member → Prop
  | mk {w q w' s : Bytes} {m : Member} :
      IsBlank w → Inside q m.key → IsBlank w' → Padded s m.value →
      IsWritten (w ++ 0x22 :: (q ++ 0x22 :: (w' ++ 0x3A :: s))) m

/-- The key as a text, if it stands for one. -/
def key? (m : Member) : Option Text :=
  ofPoints? m.key

end Member

/-- The values of the members of a name. -/
def valuesOf (members : List Member) (name : Text) : List Bytes :=
  (members.filter fun m => m.key? = some name).map Member.value

/-- The values that are words. -/
def words : List Bytes :=
  [octets "null", octets "true", octets "false"]

/-- A value. -/
inductive IsValueText : Bytes → Prop
  | word {v : Bytes} : v ∈ words → IsValueText v
  | number {v : Bytes} : IsNumberText v → IsValueText v
  | string {s : Bytes} {points : List Nat} : Inside s points →
      IsValueText (0x22 :: (s ++ [0x22]))
  | list {s : Bytes} {values : List Bytes} : Row Padded s values →
      (∀ v ∈ values, IsValueText v) → IsValueText (0x5B :: (s ++ [0x5D]))
  | object {s : Bytes} {members : List Member} : Row Member.IsWritten s members →
      (∀ m ∈ members, IsValueText m.value) → IsValueText (0x7B :: (s ++ [0x7D]))

/-- A text is an object with certain members, in order. -/
inductive IsObjectText : Bytes → List Member → Prop
  | mk {s body : Bytes} {members : List Member} : Padded s (0x7B :: (body ++ [0x7D])) →
      Row Member.IsWritten body members → (∀ m ∈ members, IsValueText m.value) →
      IsObjectText s members

end JobsGateway.Json
