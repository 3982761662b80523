import JobsGateway.Text.Quoted

/-!
# Faults in JSON

What can be wrong with a JSON text, and where. A fault is found with some octets left unread. From
these the place in the whole text is worked out: a line, and a column that counts octets.
-/

namespace JobsGateway.Json

/-- A value of another kind than the one that was asked for. -/
inductive Found where
  | null
  | boolean (value : Bool)
  | integer (negative : Bool) (value : Nat)
  | float (text : Text)
  | string (text : Text)
  | sequence
  | map
  deriving Repr, DecidableEq, Inhabited

/-- A value as messages name it. -/
def Found.text : Found → Text
  | .null => "null".toList
  | .boolean true => "boolean `true`".toList
  | .boolean false => "boolean `false`".toList
  | .integer negative n =>
    "integer `".toList ++ (if negative then ['-'] else []) ++ Text.digits n ++ ['`']
  | .float t => "floating point `".toList ++ t ++ ['`']
  | .string t => "string ".toList ++ Text.quoted t
  | .sequence => "sequence".toList
  | .map => "map".toList

/-- What is wrong. -/
inductive Problem where
  | endInValue
  | endInObject
  | endInList
  | endInString
  | expectedValue
  | expectedWord
  | expectedColon
  | expectedListEnd
  | expectedObjectEnd
  | trailingComma
  | trailingCharacters
  | keyNotString
  | invalidNumber
  | numberTooLarge
  | invalidEscape
  | controlCharacter
  | unfinishedSurrogates
  | loneSurrogate
  | invalidUtf8
  | wrongKind (found : Found) (expected : String)
  | wrongLength (count : Nat) (expected : String)
  | missingField (name : String)
  | duplicateField (name : String)
  deriving Repr, DecidableEq, Inhabited

/-- The sentence that names the problem. -/
def Problem.text : Problem → Text
  | .endInValue => "EOF while parsing a value".toList
  | .endInObject => "EOF while parsing an object".toList
  | .endInList => "EOF while parsing a list".toList
  | .endInString => "EOF while parsing a string".toList
  | .expectedValue => "expected value".toList
  | .expectedWord => "expected ident".toList
  | .expectedColon => "expected `:`".toList
  | .expectedListEnd => "expected `,` or `]`".toList
  | .expectedObjectEnd => "expected `,` or `\x7d`".toList
  | .trailingComma => "trailing comma".toList
  | .trailingCharacters => "trailing characters".toList
  | .keyNotString => "key must be a string".toList
  | .invalidNumber => "invalid number".toList
  | .numberTooLarge => "number out of range".toList
  | .invalidEscape => "invalid escape".toList
  | .controlCharacter =>
    "control character (\\u0000-\\u001F) found while parsing a string".toList
  | .unfinishedSurrogates => "unexpected end of hex escape".toList
  | .loneSurrogate => "lone leading surrogate in hex escape".toList
  | .invalidUtf8 => "invalid unicode code point".toList
  | .wrongKind found expected =>
    "invalid type: ".toList ++ found.text ++ ", expected ".toList ++ expected.toList
  | .wrongLength count expected =>
    "invalid length ".toList ++ Text.digits count ++ ", expected ".toList ++ expected.toList
  | .missingField name => "missing field `".toList ++ name.toList ++ ['`']
  | .duplicateField name => "duplicate field `".toList ++ name.toList ++ ['`']

/-- A problem, and the octets that were left when it was found. `ahead` tells that the next octet
is to blame, not the last one read. -/
structure Fault where
  problem : Problem
  rest : Bytes
  ahead : Bool
  deriving Repr, DecidableEq, Inhabited

/-- A fault at the octet that was read last. -/
def Fault.here (problem : Problem) (rest : Bytes) : Fault := ⟨problem, rest, false⟩

/-- A fault at the octet that comes next. -/
def Fault.next (problem : Problem) (rest : Bytes) : Fault := ⟨problem, rest, true⟩

/-- A problem with its place in the text. -/
structure Error where
  problem : Problem
  line : Nat
  column : Nat
  deriving Repr, DecidableEq, Inhabited

/-- The line in which the read octets end, counted from one. -/
def lineOf (read : Bytes) : Nat :=
  read.count 0x0A + 1

/-- How many of the read octets stand in their last line. -/
def columnOf (read : Bytes) : Nat :=
  (read.reverse.takeWhile (· != 0x0A)).length

/-- The fault as an error of the whole text. -/
def Fault.locate (whole : Bytes) (fault : Fault) : Error :=
  let read := whole.take (whole.length - fault.rest.length + (if fault.ahead then 1 else 0))
  ⟨fault.problem, lineOf read, columnOf read⟩

/-- The problem and its place. -/
def Error.text (e : Error) : Text :=
  e.problem.text ++ " at line ".toList ++ Text.digits e.line ++ " column ".toList ++
    Text.digits e.column

end JobsGateway.Json
