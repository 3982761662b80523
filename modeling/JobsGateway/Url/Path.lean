import JobsGateway.Url.Basic
import JobsGateway.Url.Percent

/-!
# Paths of URLs

A path is read segment by segment. A segment is percent-encoded, a single dot leaves nothing, and a
double dot takes away the segment before it; each dot may be spelt `%2e` in either case. Only a
drive letter, such as `C:`, is never taken away.
-/

namespace JobsGateway.Url

/-- The separators of path segments: a backslash counts only under a special scheme. -/
def isSeparator (special : Bool) (c : Char) : Bool :=
  c == '/' || (special && c == '\\')

/-- The text cut at each separator. There is one piece more than there are separators. -/
def cutSegments (special : Bool) : Text → List Text
  | [] => [[]]
  | c :: rest =>
    if isSeparator special c then [] :: cutSegments special rest
    else match cutSegments special rest with
      | [] => [[c]]
      | piece :: pieces => (c :: piece) :: pieces

/-- A dot, or what is left of a segment after one dot in any spelling. -/
def afterDot? : Text → Option Text
  | '.' :: rest => some rest
  | '%' :: '2' :: 'e' :: rest => some rest
  | '%' :: '2' :: 'E' :: rest => some rest
  | _ => none

/-- The segment stands for the directory it is in. -/
def isSingleDot (segment : Text) : Bool :=
  afterDot? segment == some []

/-- The segment stands for the directory above. -/
def isDoubleDot (segment : Text) : Bool :=
  ((afterDot? segment).bind afterDot?) == some []

/-- A letter and a colon or bar, as a drive is written. -/
def isDriveLetter : Text → Bool
  | [a, b] => a.isAlpha && (b == ':' || b == '|')
  | _ => false

/-- Takes the last segment away, unless it is a drive letter. `stack` holds the segments read so
far, the last one first. -/
def dropLastSegment : List Text → List Text
  | [] => []
  | top :: below => if isDriveLetter top then top :: below else below

/-- Puts the pieces of a path on a stack of segments. A dot segment at the very end leaves an empty
segment, so that the path still ends with a slash. -/
def resolveOnto (stack : List Text) : List Text → List Text
  | [] => stack
  | [piece] =>
    if isDoubleDot piece then [] :: dropLastSegment stack
    else if isSingleDot piece then [] :: stack
    else piece :: stack
  | piece :: next :: rest =>
    if isDoubleDot piece then resolveOnto (dropLastSegment stack) (next :: rest)
    else if isSingleDot piece then resolveOnto stack (next :: rest)
    else resolveOnto (piece :: stack) (next :: rest)

/-- The segments of a path, with dot segments resolved. -/
def resolve (pieces : List Text) : List Text :=
  (resolveOnto [] pieces).reverse

/-- The segments of the path that `text` spells, where `text` starts after the first slash. -/
def readSegments (special : Bool) (text : Text) : List Text :=
  resolve ((cutSegments special text).map (Percent.encode Percent.inPath))

/-- Leaves out empty segments at the front, but not the last of all. -/
def dropLeadingEmpty : List Text → List Text
  | [] :: next :: rest => dropLeadingEmpty (next :: rest)
  | list => list

/-- The first segment of a file path, if it is a drive letter, is written with a colon. -/
def normalizeDrive : List Text → List Text
  | [a, b] :: rest => if isDriveLetter [a, b] then [a, ':'] :: rest else [a, b] :: rest
  | list => list

/-- The segments of the path of a file URL. -/
def readFileSegments (text : Text) : List Text :=
  dropLeadingEmpty (normalizeDrive (readSegments true text))

end JobsGateway.Url

/-- A path as it is written. -/
def JobsGateway.UrlPath.text : JobsGateway.UrlPath → JobsGateway.Text
  | .segments list => list.flatMap ('/' :: ·)
  | .bare text => text
