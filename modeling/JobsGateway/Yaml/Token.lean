import JobsGateway.Yaml.Scalar.Fold

/-!
# Tokens

The tokens of a YAML text: scalars, the names that are given to nodes, directives, and the marks
that open, divide and close collections. A collection that is shown by indentation alone gets its
marks as well.
-/

namespace JobsGateway.Yaml

/-- The kinds of tokens. -/
inductive TokenKind where
  | streamStart
  | streamEnd
  | versionDirective (major minor : Nat)
  | tagDirective (handle expansion : Text)
  | documentStart
  | documentEnd
  | blockSequenceStart
  | blockMappingStart
  | blockEnd
  | flowSequenceStart
  | flowSequenceEnd
  | flowMappingStart
  | flowMappingEnd
  | blockEntry
  | flowEntry
  | key
  | value
  | alias (name : Text)
  | anchor (name : Text)
  | tag (handle suffix : Text)
  | scalar (text : Text) (style : Style)
  deriving Repr, DecidableEq, Inhabited

/-- A token and the places where it begins and ends. -/
structure Token where
  kind : TokenKind
  start : Mark
  stop : Mark
  deriving Repr, DecidableEq, Inhabited

end JobsGateway.Yaml
