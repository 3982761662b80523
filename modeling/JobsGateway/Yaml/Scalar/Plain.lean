import JobsGateway.Yaml.Scalar.Fold

/-!
# Plain scalars

A plain scalar goes on until something shows that it has ended: a colon before a blank, a comment
after one, a mark between documents, a line that is not indented enough, or, inside brackets, one of
their marks. Blanks at its end are passed over and do not belong to it.
-/

namespace JobsGateway.Yaml.Plain

/-- Where a plain scalar stands: inside brackets or not, how far its lines are indented at least,
and its beginning. -/
structure Setting where
  inFlow : Bool
  indent : Int
  start : Mark

/-- A plain scalar as far as it is read. `out` runs backwards. -/
structure State where
  out : Text
  gap : Gap
  mark : Mark

/-- The fault of a plain scalar at its current place. -/
def State.fault (s : State) (at_ : Setting) (p : Problem) : Fault :=
  .during .plainScalar at_.start p s.mark

/-- Takes up a visible character. -/
def State.take (s : State) (c : Char) : State :=
  ⟨c :: s.gap.fold ++ s.out, .none, s.mark.next⟩

/-- A mark of brackets, which ends a plain scalar inside brackets. -/
def isFlowMark (c : Char) : Bool :=
  c == ',' || c == '[' || c == ']' || c == '\x7b' || c == '\x7d'

/-- Whether a scalar ends before `c` because of what stands around it. -/
def endsBefore (at_ : Setting) (c : Char) (rest : Text) : Bool :=
  (c == ':' && isBlankOrEnd rest.head?) || (at_.inFlow && isFlowMark c)

/-- Whether a scalar ends after a gap before `c`. -/
def endsAfterGap (at_ : Setting) (s : State) (c : Char) (rest : Text) : Bool :=
  (!at_.inFlow && (s.mark.column : Int) < at_.indent) || c == '#' ||
    (s.mark.column = 0 && startsDocumentMark (c :: rest))

/-- Whether a colon stands where it may not stand inside brackets. -/
def isStrayColon (at_ : Setting) (c : Char) (rest : Text) : Bool :=
  at_.inFlow && c == ':' && rest.head?.any fun d => d == '?' || isFlowMark d

/-- Reads a plain scalar from its first character on. -/
def scan (at_ : Setting) (s : State) : Text → Except Fault (State × Text)
  | [] => .ok (s, [])
  | c :: rest =>
    if isBlank c then
      if s.gap.broken && (s.mark.column : Int) < at_.indent && c == '\t' then
        .error (s.fault at_ .tabInPlain)
      else scan at_ { s with gap := s.gap.addBlank c, mark := s.mark.next } rest
    else if isBreak c then
      match c, rest with
      | '\r', '\n' :: rest =>
        scan at_ { s with gap := s.gap.addBreak c, mark := s.mark.nextLine 2 } rest
      | _, rest => scan at_ { s with gap := s.gap.addBreak c, mark := s.mark.nextLine 1 } rest
    else if s.gap.isOpen && endsAfterGap at_ s c rest then .ok (s, c :: rest)
    else if isStrayColon at_ c rest then .error (s.fault at_ .colonInPlain)
    else if endsBefore at_ c rest then .ok (s, c :: rest)
    else scan at_ (s.take c) rest

end JobsGateway.Yaml.Plain
