import JobsGateway.Yaml.Token

/-!
# Events

The nodes of a YAML text in the order in which they open and close. An event carries the place where
it begins.
-/

namespace JobsGateway.Yaml

/-- A scalar with its tag, if it has one that matters. -/
structure Scalar where
  text : Text
  tag : Option Text
  style : Style
  deriving Repr, DecidableEq, Inhabited

/-- The kinds of events. Nodes may carry the name of an anchor. -/
inductive EventKind where
  | streamStart
  | streamEnd
  | documentStart
  | documentEnd
  | alias (name : Text)
  | scalar (anchor : Option Text) (scalar : Scalar)
  | sequenceStart (anchor : Option Text)
  | sequenceEnd
  | mappingStart (anchor : Option Text)
  | mappingEnd
  deriving Repr, DecidableEq, Inhabited

/-- An event and the place where it begins. -/
structure YamlEvent where
  kind : EventKind
  start : Mark
  deriving Repr, DecidableEq, Inhabited

end JobsGateway.Yaml
