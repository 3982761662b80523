import JobsGateway.Http.Message

/-!
# Reading the head of a reply

A head is a status line and the lines of its fields, up to an empty line. Empty lines before it do
not count, a line may end without a carriage return, and the phrase after the status code may be
left out. A head that has not ended where the octets end is told apart from one that no further
octets could mend.
-/

namespace JobsGateway

/-- Why no response head was found. -/
inductive HeadFault where
  | closed
  | version
  | newLine
  | fieldName
  | fieldValue
  | status
  | contentLength
  | transferEncoding
  | tooLarge
  deriving Repr, DecidableEq, Inhabited

/-- The sentence about a head that is no head. -/
def HeadFault.text : HeadFault → Text
  | .closed => "connection closed before message completed".toList
  | .version => "invalid HTTP version parsed".toList
  | .newLine => "invalid HTTP header parsed".toList
  | .fieldName => "invalid HTTP header parsed".toList
  | .fieldValue => "invalid HTTP header parsed".toList
  | .status => "invalid HTTP status-code parsed".toList
  | .contentLength => "invalid content-length parsed".toList
  | .transferEncoding => "unexpected transfer-encoding parsed".toList
  | .tooLarge => "message head is too large".toList

namespace Reply

/-- The end of a line: a line feed, perhaps after a carriage return. -/
def lineEnd? : Bytes → Option Bytes
  | 0x0D :: 0x0A :: rest => some rest
  | 0x0A :: rest => some rest
  | _ => none

/-! ## The status line -/

/-- The octets after empty lines at the front. -/
def skipEmptyLines : Bytes → Except HeadFault Bytes
  | 0x0A :: rest => skipEmptyLines rest
  | 0x0D :: 0x0A :: rest => skipEmptyLines rest
  | [] => .error .closed
  | [0x0D] => .error .closed
  | 0x0D :: _ => .error .newLine
  | s => .ok s

/-- Reads the version: whether it is 1.1 and not 1.0, and the rest. -/
def readVersion (s : Bytes) : Except HeadFault (Bool × Bytes) :=
  if (octets "HTTP/1.1").isPrefixOf s then .ok (true, s.drop 8)
  else if (octets "HTTP/1.0").isPrefixOf s then .ok (false, s.drop 8)
  else if s.isPrefixOf (octets "HTTP/1.") then .error .closed
  else .error .version

/-- Passes over the space after the version. -/
def readSpace : Bytes → Except HeadFault Bytes
  | [] => .error .closed
  | 0x20 :: rest => .ok rest
  | _ => .error .version

/-- A decimal digit. -/
def isDigit (b : UInt8) : Bool :=
  0x30 ≤ b && b ≤ 0x39

/-- The number that three digits spell. -/
def codeOf (a b c : UInt8) : Nat :=
  (a.toNat - 48) * 100 + (b.toNat - 48) * 10 + (c.toNat - 48)

/-- Reads three digits. -/
def readCode : Bytes → Except HeadFault (Nat × Bytes)
  | a :: b :: c :: rest =>
    if isDigit a && isDigit b && isDigit c then .ok (codeOf a b c, rest) else .error .status
  | s => if s.all isDigit then .error .closed else .error .status

/-- Passes over a reason phrase and the end of its line. -/
def skipReason : Bytes → Except HeadFault Bytes
  | [] => .error .closed
  | 0x0D :: 0x0A :: rest => .ok rest
  | [0x0D] => .error .closed
  | 0x0A :: rest => .ok rest
  | b :: rest => if isFieldOctet b then skipReason rest else .error .status

/-- Reads the rest of a status line after the code. -/
def readReason : Bytes → Except HeadFault Bytes
  | [] => .error .closed
  | [0x0D] => .error .closed
  | 0x20 :: rest => skipReason rest
  | s => match lineEnd? s with
    | some rest => .ok rest
    | none => .error .status

/-! ## The fields -/

/-- An octet that may stand in a field name. -/
def isNameOctet (b : UInt8) : Bool :=
  isDigit b || (0x41 ≤ b && b ≤ 0x5A) || (0x61 ≤ b && b ≤ 0x7A) ||
    (octets "!#$%&'*+-.^_`|~").contains b

/-- A space or a tab. -/
def isBlank (b : UInt8) : Bool :=
  b == 0x20 || b == 0x09

/-- A value without the blanks around it. -/
def trimBlanks (value : Bytes) : Bytes :=
  ((value.dropWhile isBlank).reverse.dropWhile isBlank).reverse

/-- The characters whose numbers the octets are. -/
def charsOf (s : Bytes) : Text :=
  s.map fun b => Char.ofNat b.toNat

/-- Reads one field line. -/
def readField (s : Bytes) : Except HeadFault (Field × Bytes) :=
  let name := s.takeWhile isNameOctet
  if name = [] then .error .fieldName
  else match s.dropWhile isNameOctet with
    | [] => .error .closed
    | 0x3A :: rest =>
      let value := rest.takeWhile isFieldOctet
      match rest.dropWhile isFieldOctet with
      | [] => .error .closed
      | [0x0D] => .error .closed
      | after =>
        match lineEnd? after with
        | some rest => .ok (.of (charsOf name) (trimBlanks value), rest)
        | none => .error .fieldValue
    | _ => .error .fieldName

/-- How many fields a head may have. -/
def fieldLimit : Nat := 100

/-- Reads at most `room` fields up to the empty line that ends the head. -/
def readFields (room : Nat) (s : Bytes) : Except HeadFault (Fields × Bytes) :=
  match s with
  | [] => .error .closed
  | [0x0D] => .error .closed
  | b :: _ =>
    match lineEnd? s with
    | some rest => .ok ([], rest)
    | none =>
      if b = 0x0D then .error .newLine
      else match readField s with
        | .error e => .error e
        | .ok (f, rest) =>
          match room with
          | 0 => .error .tooLarge
          | room + 1 => (readFields room rest).map fun p => (f :: p.1, p.2)

/-! ## The whole head -/

/-- A response head. -/
structure Head where
  isCurrent : Bool
  status : Status
  fields : Fields
  deriving Repr, DecidableEq, Inhabited

/-- Reads one head. -/
def readHead (s : Bytes) : Except HeadFault (Head × Bytes) := do
  let s ← skipEmptyLines s
  let (current, s) ← readVersion s
  let s ← readSpace s
  let (code, s) ← readCode s
  let s ← readReason s
  let (fields, s) ← readFields fieldLimit s
  if code < 100 then throw .status
  pure (⟨current, ⟨code⟩, fields⟩, s)

/-- Whether more responses follow this one to the same request. -/
def isInformational (status : Status) : Bool :=
  status.code < 200 && status.code != 101

/-- Reads the final head. `room` bounds how many informational ones may stand before it. -/
def readFinalHead (room : Nat) (s : Bytes) : Except HeadFault (Head × Bytes) :=
  match readHead s with
  | .error e => .error e
  | .ok (head, rest) =>
    if isInformational head.status then
      match room with
      | 0 => .error .closed
      | room + 1 => readFinalHead room rest
    else .ok (head, rest)

end Reply

end JobsGateway
