import JobsGateway.Gateway.Journal
import JobsGateway.Text.Blank
import JobsGateway.Text.Split

/-!
# Which events are logged

A log filter is a list of directives with commas between them. A directive gives a level to the
parts of the program whose names start with its target, or to all parts; it may also ask for fields
that an event has to carry. Of the directives that concern an event the most specific one decides,
and of equal ones the last. A directive about what goes on inside of named spans concerns no event
here, for there are none.
-/

namespace JobsGateway

/-- How much is logged: nothing, or all levels up to one. Traces are below every level. -/
inductive Verbosity where
  | off
  | error
  | warn
  | info
  | debug
  | trace
  deriving Repr, DecidableEq, Inhabited

namespace Verbosity

/-- The verbosities from the least to the most, with their names. -/
def names : List (Text × Verbosity) :=
  [("off".toList, .off), ("error".toList, .error), ("warn".toList, .warn), ("info".toList, .info),
    ("debug".toList, .debug), ("trace".toList, .trace)]

/-- A verbosity by its name in letters of either case, or by its number. -/
def read? (text : Text) : Option Verbosity :=
  match Text.unsigned? text with
  | some n => (names.map Prod.snd)[n]?
  | none => names.lookup (text.map Char.toLower)

/-- Whether events of a level are logged. -/
def shows : Verbosity → Level → Bool
  | .off, _ => false
  | .error, l => l = .error
  | .warn, l => l = .error || l = .warn
  | .info, l => l != .debug
  | .debug, _ => true
  | .trace, _ => true

end Verbosity

/-- One part of a log filter. -/
structure Directive where
  target : Option Text
  fields : List Text
  verbosity : Verbosity
  inSpan : Bool
  deriving Repr, DecidableEq, Inhabited

namespace Directive

/-- The verbosity after an equals sign. Without any, everything is logged. -/
def readVerbosity? : Text → Option Verbosity
  | [] => some .trace
  | text => Verbosity.read? text

/-- A directive that has a verbosity to come, or ends here. -/
def finish? (d : Directive) : Text → Option Directive
  | [] => some d
  | '=' :: rest => (readVerbosity? rest).map fun v => { d with verbosity := v }
  | _ => none

/-- The directive with a field that it asks for. A field that needs a value is for spans only. -/
def addField? (d : Directive) (field : Text) : Option Directive :=
  if field = [] then none
  else if field.contains '=' then some { d with inSpan := true }
  else some { d with fields := d.fields ++ [field] }

/-- Reads a span after its opening bracket. -/
def readSpan? (target : Option Text) (text : Text) : Option Directive :=
  let name := text.takeWhile fun c => c != ']' && c != '\x7b'
  match text.dropWhile fun c => c != ']' && c != '\x7b' with
  | ']' :: rest => finish? ⟨target, [], .trace, true⟩ rest
  | '\x7b' :: rest =>
    match rest.dropWhile (· != '\x7d') with
    | '\x7d' :: ']' :: after =>
      (addField? ⟨target, [], .trace, name != []⟩ (rest.takeWhile (· != '\x7d'))).bind
        fun d => finish? d after
    | _ => none
  | _ => none

/-- Whether a directive may begin with a character. -/
def mayBegin (c : Char) : Bool :=
  c == '-' || c == ':' || c == '_' || c.isAlphanum || 0x80 ≤ c.toNat

/-- Reads a directive. A text by itself is a verbosity if it can be one, and a target otherwise. -/
def read? (text : Text) : Option Directive :=
  match text with
  | [] => none
  | '[' :: rest => readSpan? none rest
  | c :: _ =>
    if !mayBegin c then none
    else
      let front := text.takeWhile fun c => c != '=' && c != '['
      match text.dropWhile fun c => c != '=' && c != '[' with
      | [] =>
        match Verbosity.read? text with
        | some v => some ⟨none, [], v, false⟩
        | none => some ⟨some text, [], .trace, false⟩
      | '[' :: rest => readSpan? (some front) rest
      | rest => finish? ⟨some front, [], .trace, false⟩ rest

/-- Whether a directive concerns an event. -/
def concerns (d : Directive) (e : Event) : Bool :=
  !d.inSpan && (d.target.getD []).isPrefixOf e.part.target &&
    d.fields.all fun field => "message".toList = field || e.fields.any fun f => f.1.toList = field

/-- Whether a directive is less specific than another one. -/
def isBelow (d other : Directive) : Bool :=
  let length (d : Directive) : Nat := (d.target.map fun t => t.length + 1).getD 0
  length d < length other || (length d = length other && d.fields.length < other.fields.length)

/-- The most specific directive of a list, and of equal ones the last. -/
def mostSpecific? (directives : List Directive) : Option Directive :=
  directives.foldl (fun best d =>
    match best with
    | none => some d
    | some b => if d.isBelow b then some b else some d) none

end Directive

/-- A log filter. -/
structure LogFilter where
  directives : List Directive
  deriving Repr, DecidableEq, Inhabited

namespace LogFilter

/-- The filter that gives one verbosity to all parts. -/
def uniform (v : Verbosity) : LogFilter :=
  ⟨[⟨none, [], v, false⟩]⟩

/-- Reads a filter. Without any directive errors are logged. -/
def read? (text : Text) : Option LogFilter := do
  let pieces := (Text.split ',' text).filter (· != [])
  let directives ← pieces.mapM fun piece => Directive.read? (Text.trim piece)
  if directives = [] then pure (uniform .error) else pure ⟨directives⟩

/-- The filter that a variable asks for. One that cannot be read counts as none. -/
def ofVariable (value : Option Text) : LogFilter :=
  (value.bind read?).getD (uniform .info)

/-- Whether an event is logged. -/
def passes (filter : LogFilter) (e : Event) : Bool :=
  match Directive.mostSpecific? (filter.directives.filter fun d => d.concerns e) with
  | some d => d.verbosity.shows e.level
  | none => false

end LogFilter

/-- An event as a line of the log: its level, its message and its fields. -/
def Event.line (e : Event) : Text :=
  e.level.text ++ ' ' :: e.message.toList ++
    e.fields.flatMap fun f => ' ' :: f.1.toList ++ '=' :: f.2

end JobsGateway
