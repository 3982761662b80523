import JobsGateway.Text.Decimal

/-!
# Header fields

The header of a message is a list of fields, each a name and a value. Names are held in lower
case, so two fields have the same name exactly if the names are equal. One name may have several
values; their order matters, the order between different names does not. `values` is the view
through which the operations are described.
-/

namespace JobsGateway

/-- One header field. The name is in lower case. -/
structure Field where
  name : Text
  value : Bytes
  deriving Repr, DecidableEq, Inhabited

/-- The header fields of a message. -/
abbrev Fields := List Field

/-- A field with a name in any case. -/
def Field.of (name : Text) (value : Bytes) : Field :=
  ⟨name.map Char.toLower, value⟩

namespace Fields

/-- All values of a name, in order. -/
def values (fields : Fields) (name : Text) : List Bytes :=
  (fields.filter fun f => f.name = name).map Field.value

/-- The first value of a name. -/
def first? (fields : Fields) (name : Text) : Option Bytes :=
  (fields.values name).head?

/-- Whether there is a field of that name. -/
def has (fields : Fields) (name : Text) : Bool :=
  fields.any fun f => f.name = name

/-- The fields whose names are not in the list. -/
def without (fields : Fields) (names : List Text) : Fields :=
  fields.filter fun f => !names.contains f.name

/-- The fields with exactly one value for a name. -/
def put (fields : Fields) (name : Text) (value : Bytes) : Fields :=
  fields.without [name] ++ [⟨name, value⟩]

/-- A value added if the name has none yet. -/
def putNew (fields : Fields) (name : Text) (value : Bytes) : Fields :=
  if fields.has name then fields else fields ++ [⟨name, value⟩]

end Fields

/-! ## Values -/

/-- An octet that may stand in a field value: no control but TAB. -/
def isFieldOctet (b : UInt8) : Bool :=
  b == 0x09 || (0x20 ≤ b && b != 0x7F)

/-- The value as text, if it holds only visible ASCII characters, spaces and tabs. -/
def visibleText? (value : Bytes) : Option Text :=
  if value.all fun b => b == 0x09 || (0x20 ≤ b && b < 0x7F) then
    some (value.map fun b => Char.ofNat b.toNat)
  else none

/-- A number as a field value. -/
def numberOctets (n : Nat) : Bytes :=
  Utf8.encode (Text.digits n)

/-! ## Names -/

namespace FieldName

def accept : Text := "accept".toList
def allow : Text := "allow".toList
def authorization : Text := "authorization".toList
def connection : Text := "connection".toList
def contentLength : Text := "content-length".toList
def contentType : Text := "content-type".toList
def cookie : Text := "cookie".toList
def host : Text := "host".toList
def keepAlive : Text := "keep-alive".toList
def proxyConnection : Text := "proxy-connection".toList
def transferEncoding : Text := "transfer-encoding".toList
def upgrade : Text := "upgrade".toList

end FieldName

end JobsGateway
