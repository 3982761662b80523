import JobsGateway.Text.Utf8

/-!
# Blanks

A blank is a character with the Unicode property White_Space. `trim` removes the blanks at both
ends of a text, which is what is done to a value from the environment before it is read.
-/

namespace JobsGateway.Text

/-- The Unicode property White_Space. -/
def isBlank (c : Char) : Bool :=
  let n := c.toNat
  (0x09 ≤ n && n ≤ 0x0D) || n == 0x20 || n == 0x85 || n == 0xA0 || n == 0x1680 ||
    (0x2000 ≤ n && n ≤ 0x200A) || n == 0x2028 || n == 0x2029 || n == 0x202F || n == 0x205F ||
    n == 0x3000

/-- `text` without the characters of `p` at its end. -/
def dropEndWhile (p : Char → Bool) (text : Text) : Text :=
  (text.reverse.dropWhile p).reverse

/-- `text` without the characters of `p` at either end. -/
def trimWhile (p : Char → Bool) (text : Text) : Text :=
  dropEndWhile p (text.dropWhile p)

/-- `text` without the blanks at either end. -/
def trim (text : Text) : Text :=
  trimWhile isBlank text

end JobsGateway.Text
