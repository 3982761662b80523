import JobsGateway.Yaml.Scalar.Fold

/-!
# Quoted scalars

Between single quotes only the quote itself needs care: it is written twice. Between double quotes
a backslash opens an escape: a letter, a number in hexadecimal digits, or a line break that does not
count. Lines are folded in both.
-/

namespace JobsGateway.Yaml.Quoted

/-- A quoted scalar as far as it is read. `out` runs backwards. -/
structure State where
  out : Text
  gap : Gap
  mark : Mark

/-- The state with the gap folded into the text. -/
def State.close (s : State) : State :=
  ⟨s.gap.fold ++ s.out, .none, s.mark⟩

/-- The state after `n` characters that stand for `c`. -/
def State.push (s : State) (c : Char) (n : Nat) : State :=
  ⟨c :: s.out, s.gap, ⟨s.mark.index + n, s.mark.line, s.mark.column + n⟩⟩

/-- The character of an escape that is one letter. -/
def letterEscape? : Char → Option Char
  | '0' => some '\x00'
  | 'a' => some '\x07'
  | 'b' => some '\x08'
  | 't' => some '\t'
  | '\t' => some '\t'
  | 'n' => some '\n'
  | 'v' => some '\x0b'
  | 'f' => some '\x0c'
  | 'r' => some '\r'
  | 'e' => some '\x1b'
  | ' ' => some ' '
  | '"' => some '"'
  | '/' => some '/'
  | '\\' => some '\\'
  | 'N' => some '\u0085'
  | '_' => some '\u00a0'
  | 'L' => some '\u2028'
  | 'P' => some '\u2029'
  | _ => none

/-- How many hexadecimal digits follow the letter of an escape. -/
def hexLength? : Char → Option Nat
  | 'x' => some 2
  | 'u' => some 4
  | 'U' => some 8
  | _ => none

/-- The character of a code point, unless it is a surrogate or too large. -/
def ofCodePoint? (n : Nat) : Option Char :=
  if h : n.isValidChar then some (Char.ofNatAux n h) else none

/-- Reads a quoted scalar after its opening quote. The result is its text and what follows the
closing quote. -/
def scan (double : Bool) (start : Mark) (s : State) (text : Text) :
    Except Fault (Text × Cursor) :=
  match text with
  | [] => .error (.during .quotedScalar start .endInQuotes s.mark)
  | c :: rest =>
    if isBlank c then
      scan double start { s with gap := s.gap.addBlank c, mark := s.mark.next } rest
    else if isBreak c then
      if c == '\r' && rest.head? == some '\n' then
        scan double start { s with gap := s.gap.addBreak c, mark := s.mark.nextLine 2 }
          (rest.drop 1)
      else scan double start { s with gap := s.gap.addBreak c, mark := s.mark.nextLine 1 } rest
    else if s.mark.column = 0 && startsDocumentMark text then
      .error (.during .quotedScalar start .documentMarkInQuotes s.mark)
    else
      let s := s.close
      if !double && c == '\'' then
        if rest.head? == some '\'' then scan double start (s.push '\'' 2) (rest.drop 1)
        else .ok (s.out.reverse, ⟨rest, s.mark.next⟩)
      else if double && c == '"' then .ok (s.out.reverse, ⟨rest, s.mark.next⟩)
      else if double && c == '\\' then
        match rest with
        | [] => .error (.during .escape start .unknownEscape s.mark)
        | e :: rest =>
          if isBreak e then
            let s := { s with gap := Gap.escaped }
            if e == '\r' && rest.head? == some '\n' then
              scan double start { s with mark := s.mark.next.nextLine 2 } (rest.drop 1)
            else scan double start { s with mark := s.mark.next.nextLine 1 } rest
          else match letterEscape? e, hexLength? e with
            | some ch, _ => scan double start (s.push ch 2) rest
            | none, none => .error (.during .escape start .unknownEscape s.mark)
            | none, some n =>
              let digits := rest.take n
              let inside : Mark := s.mark.next.next
              if digits.length < n then .error (.during .escape start .hexEscape inside)
              else match Text.natural? 16 digits with
                | none => .error (.during .escape start .hexEscape inside)
                | some value =>
                  match ofCodePoint? value with
                  | none => .error (.during .escape start .escapedCodePoint inside)
                  | some ch => scan double start (s.push ch (2 + n)) (rest.drop n)
      else scan double start (s.push c 1) rest
termination_by text.length
decreasing_by
  all_goals simp only [List.length_cons, List.length_drop]
  all_goals omega

end JobsGateway.Yaml.Quoted
