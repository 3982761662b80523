import JobsGateway.Client.Head

/-!
# Reading a chunked body

A chunked body is a row of chunks, each with its size in a line before it, and ends with a chunk of
size zero and a trailer. It is read octet by octet. Extensions of the size lines and the fields of
the trailer are passed over, but only so much of them is put up with, and a trailer has to be made
of fields like a head.
-/

namespace JobsGateway

/-- Why a body is not whole. -/
inductive BodyFault where
  | endOfBody
  | endInChunkLine
  | noChunkSize
  | badChunkSize
  | chunkSizeOverflow
  | badChunkBlank
  | badChunkExtension
  | extensionTooLong
  | badChunkLineEnd
  | badChunkReturn
  | badChunkFeed
  | badTrailerFeed
  | badEndFeed
  | trailerTooLong
  | tooManyTrailers
  | badTrailer (fault : HeadFault)
  | late
  | reset
  deriving Repr, DecidableEq, Inhabited

/-- The sentence about the fields of a trailer. -/
def HeadFault.trailerText : HeadFault → Text
  | .newLine => "invalid new line".toList
  | .fieldName => "invalid header name".toList
  | .fieldValue => "invalid header value".toList
  | .tooLarge => "too many headers".toList
  | _ => "Partial header".toList

/-- The sentence about a body that is not whole. -/
def BodyFault.text : BodyFault → Text
  | .endOfBody => "end of file before message length reached".toList
  | .endInChunkLine => "unexpected EOF during chunk size line".toList
  | .noChunkSize => "Invalid chunk size line: missing size digit".toList
  | .badChunkSize => "Invalid chunk size line: Invalid Size".toList
  | .chunkSizeOverflow => "invalid chunk size: overflow".toList
  | .badChunkBlank => "Invalid chunk size linear white space".toList
  | .badChunkExtension => "invalid chunk extension contains newline".toList
  | .extensionTooLong => "chunk extensions over limit".toList
  | .badChunkLineEnd => "Invalid chunk size LF".toList
  | .badChunkReturn => "Invalid chunk body CR".toList
  | .badChunkFeed => "Invalid chunk body LF".toList
  | .badTrailerFeed => "Invalid trailer end LF".toList
  | .badEndFeed => "Invalid chunk end LF".toList
  | .trailerTooLong => "chunk trailers bytes over limit".toList
  | .tooManyTrailers => "chunk trailers count overflow".toList
  | .badTrailer fault => fault.trailerText
  | .late => "operation timed out".toList
  | .reset => "Connection reset by peer (os error 104)".toList

namespace Reply

/-! ## The trailer -/

/-- How many octets of trailer are too many. -/
def trailerLimit : Nat := 16384

/-- What comes next in a trailer: a line or its end, some more of a line, the line feed of a line,
or the line feed of the empty line. -/
inductive TrailerState where
  | lineStart
  | line
  | lineFeed
  | endFeed
  deriving Repr, DecidableEq, Inhabited

/-- Takes up one octet of a trailer, after so many lines. `none` stands for its end. -/
def trailerStep (lines : Nat) (state : TrailerState) (b : UInt8) :
    Except BodyFault (Option (TrailerState × Nat)) :=
  match state with
  | .lineStart => .ok (some (if b = 0x0D then .endFeed else .line, lines))
  | .line => .ok (some (if b = 0x0D then .lineFeed else .line, lines))
  | .lineFeed =>
    if b ≠ 0x0A then .error .badTrailerFeed
    else if fieldLimit ≤ lines then .error .tooManyTrailers
    else .ok (some (.lineStart, lines + 1))
  | .endFeed => if b = 0x0A then .ok none else .error .badEndFeed

/-- Cuts off a trailer and counts its lines. It has to be shorter than `room`. -/
def cutTrailer (room lines : Nat) (state : TrailerState) :
    Bytes → Except BodyFault (Bytes × Nat)
  | [] => .error .endInChunkLine
  | b :: rest =>
    match trailerStep lines state b with
    | .error e => .error e
    | .ok next =>
      if room ≤ 1 then .error .trailerTooLong
      else match next with
        | none => .ok ([b], lines)
        | some (state, lines) =>
          (cutTrailer (room - 1) lines state rest).map fun p => (b :: p.1, p.2)

/-- Reads a trailer: its lines have to hold fields, no more than there are lines. -/
def readTrailer (s : Bytes) : Except BodyFault Unit := do
  let (text, lines) ← cutTrailer trailerLimit 0 .lineStart s
  if fieldLimit ≤ lines then throw .tooManyTrailers
  let _ ← (readFields lines text).mapError .badTrailer

/-! ## Chunks -/

/-- How many octets of extensions are too many for one body. -/
def extensionLimit : Nat := 16384

/-- The value of a hexadecimal digit. -/
def hexDigit? (b : UInt8) : Option Nat :=
  Text.digitIn? 16 (Char.ofNat b.toNat)

/-- What comes next in a chunked body, up to the end of the size line of its last chunk. -/
inductive ChunkState where
  | start
  | size (n : Nat)
  | blank (n : Nat)
  | extension (n : Nat)
  | sizeFeed (n : Nat)
  | data (left : Nat)
  | dataReturn
  | dataFeed
  deriving Repr, DecidableEq, Inhabited

/-- The state after the first octet that follows the digits of a chunk size. -/
def afterSize (n : Nat) (fault : BodyFault) (b : UInt8) : Except BodyFault ChunkState :=
  if isBlank b then .ok (.blank n)
  else if b = 0x3B then .ok (.extension n)
  else if b = 0x0D then .ok (.sizeFeed n)
  else .error fault

/-- Takes up one octet of a chunked body; extensions have to be shorter than `room`. `none` stands
for the end of the last size line. -/
def chunkStep (room : Nat) (state : ChunkState) (b : UInt8) :
    Except BodyFault (Option ChunkState) :=
  match state with
  | .start =>
    match hexDigit? b with
    | some d => .ok (some (.size d))
    | none => .error .noChunkSize
  | .size n =>
    match hexDigit? b with
    | some d =>
      if n * 16 + d < Text.word then .ok (some (.size (n * 16 + d))) else .error .chunkSizeOverflow
    | none => (afterSize n .badChunkSize b).map some
  | .blank n => (afterSize n .badChunkBlank b).map some
  | .extension n =>
    if b = 0x0D then .ok (some (.sizeFeed n))
    else if b = 0x0A then .error .badChunkExtension
    else if room ≤ 1 then .error .extensionTooLong
    else .ok (some (.extension n))
  | .sizeFeed n =>
    if b = 0x0A then .ok (if n = 0 then none else some (.data n)) else .error .badChunkLineEnd
  | .data left => .ok (some (if left ≤ 1 then .dataReturn else .data (left - 1)))
  | .dataReturn => if b = 0x0D then .ok (some .dataFeed) else .error .badChunkReturn
  | .dataFeed => if b = 0x0A then .ok (some .start) else .error .badChunkFeed

namespace ChunkState

/-- Whether the octet that comes next belongs to the body. -/
def isData : ChunkState → Bool
  | .data _ => true
  | _ => false

/-- How much of the room for extensions an octet takes up. -/
def spends (state : ChunkState) (b : UInt8) : Nat :=
  match state with
  | .extension _ => if b = 0x0D then 0 else 1
  | _ => 0

/-- The fault of a chunked body that ends in a state. -/
def endFault : ChunkState → BodyFault
  | .data _ => .endOfBody
  | _ => .endInChunkLine

end ChunkState

/-- Reads a chunked body from a state on. -/
def readChunks (room : Nat) (state : ChunkState) : Bytes → Except BodyFault Bytes
  | [] => .error state.endFault
  | b :: rest =>
    match chunkStep room state b with
    | .error e => .error e
    | .ok none => (readTrailer rest).map fun _ => []
    | .ok (some next) =>
      (readChunks (room - state.spends b) next rest).map fun body =>
        if state.isData then b :: body else body

end Reply

end JobsGateway
