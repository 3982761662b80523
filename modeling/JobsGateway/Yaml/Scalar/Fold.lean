import JobsGateway.Yaml.Cursor

/-!
# Folding of lines

Inside a plain or quoted scalar, blanks within a line stay as they are, and blanks around line
breaks do not count. A single line break becomes a space, and of several the first one is left out.
A gap collects blanks and breaks until the next visible character shows what they amount to.
-/

namespace JobsGateway.Yaml

/-- How a scalar is written. -/
inductive Style where
  | plain
  | singleQuoted
  | doubleQuoted
  | literal
  | folded
  deriving Repr, DecidableEq, Inhabited

/-- Blanks and breaks since the last visible character. The lists run backwards. -/
structure Gap where
  blanks : Text
  first : Text
  more : Text
  broken : Bool
  deriving Repr, DecidableEq, Inhabited

namespace Gap

/-- No gap. -/
def none : Gap := ⟨[], [], [], false⟩

/-- The gap of a line break that is escaped: nothing is left of it. -/
def escaped : Gap := ⟨[], [], [], true⟩

/-- Whether there is any gap. -/
def isOpen (g : Gap) : Bool :=
  g.broken || g.blanks != []

/-- The gap with one more blank, which counts only before the first break. -/
def addBlank (g : Gap) (c : Char) : Gap :=
  if g.broken then g else { g with blanks := c :: g.blanks }

/-- The gap with one more break. -/
def addBreak (g : Gap) (c : Char) : Gap :=
  if g.broken then { g with more := breakChar c :: g.more }
  else ⟨[], [breakChar c], [], true⟩

/-- What the gap amounts to, backwards. -/
def fold (g : Gap) : Text :=
  if !g.broken then g.blanks
  else if g.first = ['\n'] then (if g.more = [] then [' '] else g.more)
  else g.more ++ g.first

end Gap

end JobsGateway.Yaml
