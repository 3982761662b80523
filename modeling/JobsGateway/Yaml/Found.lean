import JobsGateway.Yaml.CoreSchema
import JobsGateway.Text.Quoted

/-!
# What stands in place of what was asked for

A value of the wrong kind is named in messages: text by itself, numbers and truth values by what
they mean, and collections by their kind alone.
-/

namespace JobsGateway.Yaml

/-- A decimal number as messages show it. -/
def Float64.text : Float64 → Text
  | .finite negative magnitude =>
    (if negative then ['-'] else []) ++ magnitude.shortest.positional
  | .infinite negative => (if negative then ['-'] else []) ++ "inf".toList
  | .notANumber => "NaN".toList

/-- A whole number as messages show it. -/
def integerText (n : Int) : Text :=
  (if n < 0 then ['-'] else []) ++ Text.digits n.natAbs

/-- The mark of a whole number that needs more than 64 bits. -/
def widthText (n : Int) : Text :=
  if n < -(Nat.pow 2 63 : Int) then " as i128".toList
  else if (Nat.pow 2 64 : Int) ≤ n then " as u128".toList
  else []

/-- A value as messages name it. -/
def Value.described : Value → Text
  | .null => "unit value".toList
  | .boolean b => "boolean `".toList ++ (if b then "true" else "false").toList ++ ['`']
  | .integer n => "integer `".toList ++ integerText n ++ ['`'] ++ widthText n
  | .float f => "floating point `".toList ++ f.text ++ ['`']
  | .text t => "string ".toList ++ Text.quoted t

end JobsGateway.Yaml
