import JobsGateway.Url.Basic

/-!
# IPv6 addresses

Eight pieces of 16 bits in hexadecimal, parted by colons. Two colons stand for the zero pieces that
are missing, at least one, and the last two pieces may be four decimal octets. An address is
written with the first of its longest runs of zero pieces left out.
-/

namespace JobsGateway.Ipv6

/-- A piece: one to four hexadecimal digits. -/
def readPiece? (text : Text) : Option Nat :=
  if text.length ≤ 4 then Text.natural? 16 text else none

/-- An octet in decimal, without leading zeros. -/
def readOctet? (text : Text) : Option Nat :=
  match text with
  | '0' :: _ :: _ => none
  | _ => (Text.natural? 10 text).filter (· < 256)

/-- Four octets as the two pieces they fill. -/
def readQuad? (text : Text) : Option (List Nat) :=
  match text.splitOn '.' with
  | [a, b, c, d] => do
    let w ← readOctet? a
    let x ← readOctet? b
    let y ← readOctet? c
    let z ← readOctet? d
    pure [w * 256 + x, y * 256 + z]
  | _ => none

/-- Pieces with colons between them. With `quad`, the last group may be four octets. -/
def readGroups? (quad : Bool) : List Text → Option (List Nat)
  | [] => some []
  | [last] =>
    if quad && last.contains '.' then readQuad? last else (readPiece? last).map ([·])
  | group :: rest => do
    let piece ← readPiece? group
    let pieces ← readGroups? quad rest
    pure (piece :: pieces)

/-- The text before and after the first two colons in a row. -/
def cutDoubleColon? : Text → Option (Text × Text)
  | ':' :: ':' :: rest => some ([], rest)
  | c :: rest => (cutDoubleColon? rest).map fun (front, back) => (c :: front, back)
  | [] => none

/-- The pieces on one side of the double colon. -/
def readSide? (quad : Bool) (text : Text) : Option (List Nat) :=
  if text = [] then some [] else readGroups? quad (text.splitOn ':')

/-- The eight pieces that a text spells. -/
def read? (text : Text) : Option (List Nat) :=
  match cutDoubleColon? text with
  | none => (readGroups? true (text.splitOn ':')).filter (·.length == 8)
  | some (front, back) => do
    let before ← readSide? false front
    let after ← readSide? true back
    if before.length + after.length < 8 then
      pure (before ++ List.replicate (8 - before.length - after.length) 0 ++ after)
    else none

/-- Where the first run of `length` zero pieces starts. -/
def zeroRun? (length : Nat) (pieces : List Nat) : Option Nat :=
  (List.range (9 - length)).find? fun start =>
    (pieces.drop start).take length == List.replicate length 0

/-- The start and length of the first of the longest runs of zero pieces, of two at least. -/
def longestZeroRun? (pieces : List Nat) : Option (Nat × Nat) :=
  [8, 7, 6, 5, 4, 3, 2].findSome? fun length => (zeroRun? length pieces).map (·, length)

/-- Pieces in hexadecimal with colons between them. -/
def writeGroups (pieces : List Nat) : Text :=
  List.intercalate [':'] (pieces.map Text.hexDigits)

/-- The shortest text of an address. -/
def write (pieces : List Nat) : Text :=
  match longestZeroRun? pieces with
  | none => writeGroups pieces
  | some (start, length) =>
    writeGroups (pieces.take start) ++ ':' :: ':' :: writeGroups (pieces.drop (start + length))

end JobsGateway.Ipv6
