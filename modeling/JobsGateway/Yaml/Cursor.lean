import JobsGateway.Yaml.Fault

/-!
# Moving through a YAML text

The classes of characters that the grammar needs, and a cursor: what is left of the text, and the
mark where it begins. A line break is one of five characters, or a carriage return with a line feed;
those that are not peculiar to Unicode count as a line feed.
-/

namespace JobsGateway.Yaml

/-! ## Classes of characters -/

/-- A space or a tab. -/
def isBlank (c : Char) : Bool :=
  c == ' ' || c == '\t'

/-- A character that ends a line. -/
def isBreak (c : Char) : Bool :=
  c == '\r' || c == '\n' || c == '\u0085' || c == '\u2028' || c == '\u2029'

/-- A blank, a line break, or the end of the text. -/
def isBlankOrEnd : Option Char → Bool
  | some c => isBlank c || isBreak c
  | none => true

/-- A line break or the end of the text. -/
def isBreakOrEnd : Option Char → Bool
  | some c => isBreak c
  | none => true

/-- A character of names. -/
def isWordChar (c : Char) : Bool :=
  c.isAlphanum || c == '_' || c == '-'

/-- What a line break stands for in a scalar. -/
def breakChar (c : Char) : Char :=
  if c == '\u2028' || c == '\u2029' then c else '\n'

/-- A character that may stand in a YAML text at all. -/
def isAllowed (c : Char) : Bool :=
  let n := c.toNat
  n == 0x09 || n == 0x0A || n == 0x0D || (0x20 ≤ n && n ≤ 0x7E) || n == 0x85 ||
    (0xA0 ≤ n && n ≤ 0xD7FF) || (0xE000 ≤ n && n ≤ 0xFFFD) || 0x10000 ≤ n

/-! ## The cursor -/

/-- What is left of a text, and where that begins. -/
structure Cursor where
  rest : Text
  mark : Mark
  deriving Repr, DecidableEq, Inhabited

namespace Cursor

/-- The character at the cursor. -/
def peek (c : Cursor) : Option Char :=
  c.rest.head?

/-- The character some places after the cursor. -/
def peekAt (c : Cursor) (n : Nat) : Option Char :=
  c.rest[n]?

/-- The cursor one character further in the same line. -/
def skip (c : Cursor) : Cursor :=
  ⟨c.rest.drop 1, c.mark.next⟩

/-- The cursor after a line break, if it stands before one. -/
def skipBreak (c : Cursor) : Cursor :=
  match c.rest with
  | '\r' :: '\n' :: rest => ⟨rest, c.mark.nextLine 2⟩
  | b :: rest => if isBreak b then ⟨rest, c.mark.nextLine 1⟩ else c
  | [] => c

/-- The characters of a class at the cursor, and the cursor after them. They must not be breaks. -/
def takeWhile (p : Char → Bool) (c : Cursor) : Text × Cursor :=
  let taken := c.rest.takeWhile p
  let n := taken.length
  (taken, ⟨c.rest.dropWhile p, ⟨c.mark.index + n, c.mark.line, c.mark.column + n⟩⟩)

/-- The cursor after the characters of a class. -/
def skipWhile (p : Char → Bool) (c : Cursor) : Cursor :=
  (c.takeWhile p).2

/-- The cursor after a comment, if it stands before one. -/
def skipComment (c : Cursor) : Cursor :=
  if c.peek = some '#' then c.skipWhile fun ch => !isBreak ch else c

end Cursor

/-- Whether a text starts with a mark of three characters that separates documents. -/
def startsDocumentMark : Text → Bool
  | '-' :: '-' :: '-' :: rest => isBlankOrEnd rest.head?
  | '.' :: '.' :: '.' :: rest => isBlankOrEnd rest.head?
  | _ => false

end JobsGateway.Yaml
