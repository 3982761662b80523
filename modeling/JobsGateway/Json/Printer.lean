import JobsGateway.Text.Decimal

/-!
# Writing JSON

JSON is written without blanks. Inside a string the quote, the backslash and the controls below
U+0020 are escaped, five of them by a letter and the others by four hexadecimal digits; every other
character stands for itself.
-/

namespace JobsGateway.Json

/-- Two hexadecimal digits of `n < 256`. -/
def hexPair (n : Nat) : Text :=
  Text.hexDigits (n / 16) ++ Text.hexDigits (n % 16)

/-- One character inside a string. -/
def escapeChar (c : Char) : Text :=
  match c with
  | '"' => ['\\', '"']
  | '\\' => ['\\', '\\']
  | '\x08' => ['\\', 'b']
  | '\x0c' => ['\\', 'f']
  | '\n' => ['\\', 'n']
  | '\r' => ['\\', 'r']
  | '\t' => ['\\', 't']
  | c => if c.toNat < 0x20 then ['\\', 'u', '0', '0'] ++ hexPair c.toNat else [c]

/-- A string with its quotes. -/
def string (text : Text) : Text :=
  '"' :: text.flatMap escapeChar ++ ['"']

/-- A string, or `null` for none. -/
def string? : Option Text → Text
  | some text => string text
  | none => "null".toList

/-- A member of an object, its value already written. -/
def member (key value : Text) : Text :=
  string key ++ ':' :: value

/-- An object from its members, the values already written. -/
def object (members : List (Text × Text)) : Text :=
  '\x7b' :: [','].intercalate (members.map fun m => member m.1 m.2) ++ ['\x7d']

end JobsGateway.Json
