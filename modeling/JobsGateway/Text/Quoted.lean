import JobsGateway.Text.CodeRange
import JobsGateway.Text.Decimal

/-!
# Quoted text

A value that is shown inside a message stands between double quotes. The quote, the backslash,
TAB, LF, CR and NUL have short escapes; a character that does not print, or that would join with
the one before it, is shown by its number.
-/

namespace JobsGateway.Text

/-- The braces around a code point. -/
def braced (inner : Text) : Text :=
  '\x7b' :: inner ++ ['\x7d']

/-- Whether a character is shown by its number. -/
def isHidden (c : Char) : Bool :=
  c.toNat < 0x20 ||
    (0x7F ≤ c.toNat && (CodeRange.contains joining c || CodeRange.contains unprintable c))

/-- How one character is shown between quotes. -/
def quotedChar (c : Char) : Text :=
  match c with
  | '"' => ['\\', '"']
  | '\\' => ['\\', '\\']
  | '\t' => ['\\', 't']
  | '\n' => ['\\', 'n']
  | '\r' => ['\\', 'r']
  | '\x00' => ['\\', '0']
  | c => if isHidden c then '\\' :: 'u' :: braced (hexDigits c.toNat) else [c]

/-- A text between double quotes. -/
def quoted (text : Text) : Text :=
  '"' :: text.flatMap quotedChar ++ ['"']

end JobsGateway.Text

/-- A string between double quotes, as messages show it. -/
def JobsGateway.quote (s : String) : String :=
  String.ofList (JobsGateway.Text.quoted s.toList)
