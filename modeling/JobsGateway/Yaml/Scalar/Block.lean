import JobsGateway.Yaml.Scalar.Fold

/-!
# Block scalars

A block scalar starts with a bar, which keeps its lines, or with a greater-than sign, which folds
them. After it may stand how the end is trimmed and how far the lines are indented; otherwise the
first line with text shows the indentation. The scalar ends where a line has another indentation.
-/

namespace JobsGateway.Yaml.Block

/-- What becomes of the line breaks at the end. -/
inductive Chomping where
  | clip
  | strip
  | keep
  deriving Repr, DecidableEq, Inhabited

/-- What stands behind the sign of a block scalar. -/
structure Header where
  chomping : Chomping
  increment : Nat
  deriving Repr, DecidableEq, Inhabited

/-- The trimming that a sign asks for. -/
def chompingOf? : Option Char → Option Chomping
  | some '+' => some .keep
  | some '-' => some .strip
  | _ => none

/-- The value of a decimal digit. -/
def digit? : Option Char → Option Nat
  | some c => Text.digitIn? 10 c
  | none => none

/-- Reads the digit for the indentation, if there is one. -/
def readIncrement (start : Mark) (c : Cursor) : Except Fault (Nat × Cursor) :=
  match digit? c.peek with
  | none => .ok (0, c)
  | some 0 => .error (.during .blockScalar start .zeroIndentation c.mark)
  | some n => .ok (n, c.skip)

/-- Reads the rest of the first line. -/
def readHeader (start : Mark) (c : Cursor) : Except Fault (Header × Cursor) :=
  match chompingOf? c.peek with
  | some chomping => (readIncrement start c.skip).map fun p => (⟨chomping, p.1⟩, p.2)
  | none =>
    match readIncrement start c with
    | .error e => .error e
    | .ok (0, c) => .ok (⟨.clip, 0⟩, c)
    | .ok (n, c) =>
      match chompingOf? c.peek with
      | some chomping => .ok (⟨chomping, n⟩, c.skip)
      | none => .ok (⟨.clip, n⟩, c)

/-- Where a block scalar stands: whether its lines are folded, the indentation around it, and its
beginning. -/
structure Setting where
  folded : Bool
  outer : Int
  start : Mark

/-- A block scalar as far as it is read. `out` and `trail` run backwards: `lead` is the break that
ended the last line, `trail` holds the empty lines after it. The indentation is zero as long as it
is not known, and `deepest` is the deepest column among the empty lines. -/
structure State where
  out : Text
  lead : Text
  trail : Text
  leadingBlank : Bool
  indent : Nat
  deepest : Nat
  inLine : Bool
  mark : Mark

/-- A block scalar of which no line has been read. -/
def State.begin (indent : Nat) (mark : Mark) : State :=
  ⟨[], [], [], false, indent, 0, false, mark⟩

/-- The state after a line break of some characters. -/
def State.addBreak (s : State) (c : Char) (chars : Nat) : State :=
  let mark := s.mark.nextLine chars
  if s.inLine then { s with lead := [breakChar c], inLine := false, deepest := 0, mark := mark }
  else { s with trail := breakChar c :: s.trail, mark := mark }

/-- The indentation, now that a line with text has been found. -/
def State.settleIndent (s : State) (outer : Int) : Nat :=
  if s.indent != 0 then s.indent
  else max (max (max s.deepest s.mark.column) (outer + 1).toNat) 1

/-- Begins a line with its first character. -/
def State.beginLine (s : State) (folded : Bool) (indent : Nat) (c : Char) : State :=
  let joined :=
    if folded && s.lead = ['\n'] && !s.leadingBlank && !isBlank c then
      (if s.trail = [] then ' ' :: s.out else s.out)
    else s.lead ++ s.out
  { s with
    out := c :: s.trail ++ joined, lead := [], trail := [], leadingBlank := isBlank c
    indent := indent, inLine := true, mark := s.mark.next }

/-- Reads the lines of a block scalar. -/
def scanLines (at_ : Setting) (s : State) : Text → Except Fault (State × Text)
  | [] => .ok (s, [])
  | c :: rest =>
    if isBreak c then
      match c, rest with
      | '\r', '\n' :: rest => scanLines at_ (s.addBreak c 2) rest
      | _, rest => scanLines at_ (s.addBreak c 1) rest
    else if s.inLine then
      scanLines at_ { s with out := c :: s.out, mark := s.mark.next } rest
    else
      let outside := s.indent = 0 || s.mark.column < s.indent
      if outside && c == ' ' then
        scanLines at_
          { s with mark := s.mark.next, deepest := max s.deepest (s.mark.column + 1) } rest
      else if outside && c == '\t' then
        .error (.during .blockScalar at_.start .tabIndentation s.mark)
      else
        let indent := s.settleIndent at_.outer
        if s.mark.column = indent then scanLines at_ (s.beginLine at_.folded indent c) rest
        else .ok (s, c :: rest)

/-- The text of a block scalar after its last line. -/
def State.finish (s : State) (chomping : Chomping) : Text :=
  match chomping with
  | .strip => s.out.reverse
  | .clip => (s.lead ++ s.out).reverse
  | .keep => (s.trail ++ s.lead ++ s.out).reverse

/-- Reads a block scalar after its sign. -/
def scan (folded : Bool) (outer : Int) (start : Mark) (c : Cursor) :
    Except Fault (Text × Cursor) := do
  let (header, c) ← readHeader start c
  let c := (c.skipWhile isBlank).skipComment
  if !isBreakOrEnd c.peek then throw (.during .blockScalar start .lineEnd c.mark)
  let c := c.skipBreak
  let indent :=
    if header.increment = 0 then 0
    else if 0 ≤ outer then (outer + header.increment).toNat
    else header.increment
  let (s, rest) ← scanLines ⟨folded, outer, start⟩ (.begin indent c.mark) c.rest
  pure (s.finish header.chomping, ⟨rest, s.mark⟩)

end JobsGateway.Yaml.Block
