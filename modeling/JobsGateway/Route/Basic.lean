import JobsGateway.Http.Message
import JobsGateway.Text.Split

/-!
# Routes

A route has a name, a verb, an inbound pattern and a backend template. Patterns and templates are
cut at the slashes; a segment such as `{job_id}` is a parameter, any other stands for itself.
`capture` matches a path against the pattern, and `backendPath` puts the captured values into the
template as they arrived, still percent-encoded.

No captured value may be one that a URL reader resolves as `.` or `..` or cuts in two, or a path
could lead somewhere else than the template says.
-/

namespace JobsGateway

/-- The verbs of routes. -/
inductive Verb where
  | get
  | post
  | patch
  | delete
  deriving Repr, DecidableEq, Inhabited

/-- The method that a verb is sent as. -/
def Verb.method : Verb → Text
  | .get => Method.get
  | .post => Method.post
  | .patch => Method.patch
  | .delete => Method.delete

/-- A part of a pattern between two slashes. -/
inductive Segment where
  | literal (text : Text)
  | param (name : Text)
  deriving Repr, DecidableEq, Inhabited

/-- The parameter that a segment in braces names. -/
def paramName? : Text → Option Text
  | '\x7b' :: rest =>
    match rest.reverse with
    | '\x7d' :: name => some name.reverse
    | _ => none
  | _ => none

/-- The segment that a piece of a pattern spells. -/
def Segment.read (piece : Text) : Segment :=
  match paramName? piece with
  | some name => .param name
  | none => .literal piece

/-- The segment as it is written. -/
def Segment.text : Segment → Text
  | .literal text => text
  | .param name => '\x7b' :: name ++ ['\x7d']

/-- The text with every `%2e`, in either case, replaced by a dot. -/
def plainDots : Text → Text
  | '%' :: '2' :: 'e' :: rest => '.' :: plainDots rest
  | '%' :: '2' :: 'E' :: rest => '.' :: plainDots rest
  | c :: rest => c :: plainDots rest
  | [] => []

/-- A value that does not stay one segment of its own in a URL. -/
def isUnsafe (value : Text) : Bool :=
  value.contains '\\' || plainDots value = ['.'] || plainDots value = ['.', '.']

/-- A route of the gateway. -/
structure Route where
  name : Text
  verb : Verb
  inbound : Text
  template : Text
  deriving Repr, DecidableEq, Inhabited

namespace Route

/-- Names and values of parameters, in the order of the pattern. -/
abbrev Captured := List (Text × Text)

/-- Matches the segments of a path one by one. -/
def captureSegments : List Segment → List Text → Option Captured
  | [], [] => some []
  | .literal text :: pattern, actual :: path =>
    if text = actual then captureSegments pattern path else none
  | .param name :: pattern, actual :: path =>
    if actual = [] || isUnsafe actual then none
    else (captureSegments pattern path).map ((name, actual) :: ·)
  | _, _ => none

/-- The segments of a text after its leading slashes. -/
def segmentsOf (text : Text) : List Text :=
  Text.split '/' (Text.dropLeading '/' text)

/-- The segments of the inbound pattern. -/
def pattern (r : Route) : List Segment :=
  (segmentsOf r.inbound).map Segment.read

/-- The values of the parameters in a path that has the form of the pattern. -/
def capture (r : Route) (path : Text) : Option Captured :=
  captureSegments r.pattern (segmentsOf path)

/-- A segment of a template with its value: the first one captured under its name. -/
def fillSegment (captured : Captured) : Segment → Option Text
  | .literal text => some text
  | .param name => captured.lookup name

/-- The segments of the backend template. -/
def templateSegments (r : Route) : List Segment :=
  (Text.split '/' r.template).map Segment.read

/-- The backend path for a path that has the form of the pattern. -/
def backendPath (r : Route) (path : Text) : Option Text := do
  let captured ← r.capture path
  let pieces ← r.templateSegments.mapM (fillSegment captured)
  pure (Text.join '/' pieces)

/-- The pattern with a value in place of each parameter, in order. -/
def fillPattern : List Segment → List Text → Option (List Text)
  | [], [] => some []
  | .literal text :: pattern, values => (fillPattern pattern values).map (text :: ·)
  | .param _ :: pattern, value :: values => (fillPattern pattern values).map (value :: ·)
  | _, _ => none

end Route

end JobsGateway
