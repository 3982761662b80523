import JobsGateway.Client.Chunks

/-!
# Reading the reply of a peer

A peer answers with octets. After them it closes the connection, or it sends nothing more in time,
or the connection is reset. `Reply.read` finds the head of the final response in the octets, past
informational ones, and then the body. The head decides how the body is framed: none for some
statuses, in chunks, with a given length, or up to the end of the connection. A body that is not
whole is a fault, and what was read of it is lost; the head is known all the same.
-/

namespace JobsGateway

/-- What comes after the octets of a peer: it closes the connection, it sends nothing more while the
client waits, or the connection is reset. -/
inductive Parting where
  | closes
  | stalls
  | resets
  deriving Repr, DecidableEq, Inhabited

/-- The fault of a body that is not whole. Only where the octets run out before the body ends does
it matter what comes after them. -/
def Parting.bodyFault (parting : Parting) : BodyFault → BodyFault
  | .endOfBody =>
    match parting with
    | .closes => .endOfBody
    | .stalls => .late
    | .resets => .reset
  | .endInChunkLine =>
    match parting with
    | .closes => .endInChunkLine
    | .stalls => .late
    | .resets => .reset
  | fault => fault

/-- A reply with a head, and with a body if that is whole. -/
structure Reply where
  status : Status
  fields : Fields
  body : Except BodyFault Bytes

namespace Reply

/-! ## Framing -/

/-- How the end of a body is known. -/
inductive Framing where
  | none
  | length (n : Nat)
  | chunked
  | untilClose
  deriving Repr, DecidableEq, Inhabited

/-- The octets in lower case. -/
def lower (s : Bytes) : Bytes :=
  s.map fun b => if 0x41 ≤ b && b ≤ 0x5A then b + 0x20 else b

/-- The text after the last comma of a list value. -/
def lastItem (value : Bytes) : Bytes :=
  trimBlanks (value.reverse.takeWhile (· != 0x2C)).reverse

/-- Whether the last transfer coding is the chunked one. A value with other octets than visible
ones names no coding. -/
def isChunked (fields : Fields) : Bool :=
  match (fields.values FieldName.transferEncoding).getLast? with
  | some value => (visibleText? value).isSome && lower (lastItem value) = octets "chunked"
  | none => false

/-- A length given by digits only. -/
def length? (value : Bytes) : Option Nat :=
  (Text.natural? 10 (charsOf value)).filter (· < Text.word)

/-- The items of a list value. -/
def items (value : Bytes) : List Bytes :=
  match value with
  | [] => [[]]
  | b :: rest =>
    if b = 0x2C then [] :: items rest
    else match items rest with
      | [] => [[b]]
      | item :: more => (b :: item) :: more

/-- The one length that all content-length fields agree on. -/
def contentLength? (fields : Fields) : Option Nat :=
  let all := (fields.values FieldName.contentLength).flatMap fun v =>
    (items v).map fun i => length? (trimBlanks i)
  match all with
  | some n :: rest => if rest.all (· == some n) then some n else none
  | _ => none

/-- Lengths from here on are refused: the two largest numbers of a word are kept for other uses. -/
def lengthLimit : Nat := Text.word - 2

/-- Whether a response to a method has no body, whatever its fields say. -/
def isBodiless (method : Text) (status : Status) : Bool :=
  status.code = 101 || status.code = 204 || status.code = 304 || method = Method.head ||
    (method = Method.connect && status.isSuccess)

/-- The framing of the body of a response to a method. -/
def framing (method : Text) (head : Head) : Except HeadFault Framing :=
  if isBodiless method head.status then .ok .none
  else if head.fields.has FieldName.transferEncoding then
    if !head.isCurrent then .error .transferEncoding
    else if isChunked head.fields then .ok .chunked
    else .ok .untilClose
  else match contentLength? head.fields with
    | some n => if n < lengthLimit then .ok (.length n) else .error .tooLarge
    | none =>
      if head.fields.has FieldName.contentLength then .error .contentLength else .ok .untilClose

/-! ## The whole reply -/

/-- Reads a body from all the octets that come. -/
def readBody (parting : Parting) (framing : Framing) (s : Bytes) : Except BodyFault Bytes :=
  match framing with
  | .none => .ok []
  | .length n => if s.length < n then .error (parting.bodyFault .endOfBody) else .ok (s.take n)
  | .chunked => (readChunks extensionLimit .start s).mapError parting.bodyFault
  | .untilClose => if parting = .closes then .ok s else .error (parting.bodyFault .endOfBody)

/-- Reads the reply to a request of a method. -/
def read (parting : Parting) (method : Text) (s : Bytes) : Except HeadFault Reply := do
  let (head, rest) ← readFinalHead s.length s
  let framing ← framing method head
  pure ⟨head.status, head.fields, readBody parting framing rest⟩

/-! ## Writing -/

/-- A field as a line. -/
def writeField (f : Field) : Bytes :=
  Utf8.encode f.name ++ octets ": " ++ f.value ++ octets "\r\n"

/-- A response head. -/
def writeHead (status : Status) (reason : String) (fields : Fields) : Bytes :=
  octets "HTTP/1.1 " ++ numberOctets status.code ++ octets " " ++ octets reason ++ octets "\r\n" ++
    fields.flatMap writeField ++ octets "\r\n"

/-- One chunk with its size line. -/
def writeChunk (data : Bytes) : Bytes :=
  Utf8.encode (Text.hexDigits data.length) ++ octets "\r\n" ++ data ++ octets "\r\n"

/-- A chunked body. -/
def writeChunks (chunks : List Bytes) : Bytes :=
  chunks.flatMap writeChunk ++ octets "0\r\n\r\n"

end Reply

end JobsGateway
