import JobsGateway.Yaml.Token

/-!
# Anchors, tags and directives

An anchor names a node and an alias refers to it. A tag names the type of a node, either in full
between angle brackets or as a handle and a suffix; a directive says what a handle stands for, or
which version of the language a document is written in.
-/

namespace JobsGateway.Yaml.Property

/-! ## Anchors -/

/-- Whether a character, or the end of the text, may follow an anchor. -/
def mayFollowAnchor : Option Char → Bool
  | some c => isBlankOrEnd (some c) || "?:,]\x7d%@`".toList.contains c
  | none => true

/-- Reads the name of an anchor or alias after its sign. -/
def scanAnchor (activity : Activity) (start : Mark) (c : Cursor) :
    Except Fault (Text × Cursor) :=
  let (name, c) := c.takeWhile isWordChar
  if name = [] || !mayFollowAnchor c.peek then .error (.during activity start .anchorName c.mark)
  else .ok (name, c)

/-! ## Tags -/

/-- What is being read: a tag, or the directive for a handle. -/
structure Setting where
  inDirective : Bool
  start : Mark

/-- The fault of a tag text that cannot be read. -/
def Setting.uriFault (at_ : Setting) (p : Problem) (mark : Mark) : Fault :=
  .during (if at_.inDirective then .tagDirectiveUri else .tagUri) at_.start p mark

/-- A character of a tag text; inside angle brackets more are allowed. -/
def isUriChar (inBrackets : Bool) (c : Char) : Bool :=
  isWordChar c || ";/?:@&=+$.%!~*'()".toList.contains c ||
    (inBrackets && (c == ',' || c == '[' || c == ']'))

/-- How many octets a sequence has that starts with this one. -/
def sequenceLength? (octet : Nat) : Option Nat :=
  if octet < 0x80 then some 1
  else if octet / 32 = 6 then some 2
  else if octet / 16 = 14 then some 3
  else if octet / 8 = 30 then some 4
  else none

/-- The octet of an escape at the front of a text. -/
def escapedOctet? : Text → Option Nat
  | '%' :: a :: b :: _ => Text.natural? 16 [a, b]
  | _ => none

/-- Reads the escapes of the octets that follow the first one. -/
def scanTailEscapes (at_ : Setting) : Nat → Cursor → Except Fault (Bytes × Cursor)
  | 0, c => .ok ([], c)
  | n + 1, c =>
    match escapedOctet? c.rest with
    | none => .error (at_.uriFault .uriEscape c.mark)
    | some octet =>
      if octet / 64 != 2 then .error (at_.uriFault .uriTrailingOctet c.mark)
      else (scanTailEscapes at_ n c.skip.skip.skip).map fun p => (UInt8.ofNat octet :: p.1, p.2)

/-- Reads the escapes of one character. -/
def scanEscapes (at_ : Setting) (c : Cursor) : Except Fault (Bytes × Cursor) :=
  match escapedOctet? c.rest with
  | none => .error (at_.uriFault .uriEscape c.mark)
  | some octet =>
    match sequenceLength? octet with
    | none => .error (at_.uriFault .uriLeadingOctet c.mark)
    | some n =>
      (scanTailEscapes at_ (n - 1) c.skip.skip.skip).map fun p => (UInt8.ofNat octet :: p.1, p.2)

/-- Reads the characters of a tag text, at most `room` of them. -/
def scanUriChars (at_ : Setting) (inBrackets : Bool) (room : Nat) (c : Cursor) :
    Except Fault (Bytes × Cursor) :=
  match room, c.peek with
  | room + 1, some ch =>
    if !isUriChar inBrackets ch then .ok ([], c)
    else if ch == '%' then do
      let (octets, c) ← scanEscapes at_ c
      let (more, c) ← scanUriChars at_ inBrackets room c
      pure (octets ++ more, c)
    else (scanUriChars at_ inBrackets room c.skip).map fun p =>
      (String.utf8EncodeChar ch ++ p.1, p.2)
  | _, _ => .ok ([], c)

/-- Octets as text, and nothing where they are none. -/
def textOf (octets : Bytes) : Text :=
  (Utf8.decode? octets).getD []

/-- Reads a tag text. `head` is what stands before it without being a handle. -/
def scanUri (at_ : Setting) (inBrackets : Bool) (head : Text) (c : Cursor) :
    Except Fault (Text × Cursor) := do
  let (octets, after) ← scanUriChars at_ inBrackets c.rest.length c
  if head = [] && after.mark = c.mark then throw (at_.uriFault .uri after.mark)
  pure (head.drop 1 ++ textOf octets, after)

/-- Reads a handle: an exclamation mark, a word, and perhaps a second mark. -/
def scanHandle (at_ : Setting) (c : Cursor) : Except Fault (Text × Cursor) :=
  if c.peek != some '!' then
    .error (.during (if at_.inDirective then .tagDirectiveHandle else .tag) at_.start .handleStart
      c.mark)
  else
    let (word, c) := c.skip.takeWhile isWordChar
    if c.peek = some '!' then .ok ('!' :: word ++ ['!'], c.skip)
    else if at_.inDirective && word != [] then
      .error (.during .tagDirectiveHandleEnd at_.start .handleEnd c.mark)
    else .ok ('!' :: word, c)

/-- Whether a handle has both its marks. -/
def isNamedHandle (handle : Text) : Bool :=
  2 ≤ handle.length && handle.getLast? = some '!'

/-- Reads handle and suffix of a tag that is not in angle brackets. -/
def scanShorthand (at_ : Setting) (c : Cursor) : Except Fault ((Text × Text) × Cursor) := do
  let (handle, c) ← scanHandle at_ c
  if isNamedHandle handle then
    let (suffix, c) ← scanUri at_ false [] c
    pure ((handle, suffix), c)
  else
    let (suffix, c) ← scanUri at_ false handle c
    pure (if suffix = [] then ([], ['!']) else (['!'], suffix), c)

/-- Reads a tag in angle brackets from its first bracket on. -/
def scanVerbatim (at_ : Setting) (c : Cursor) : Except Fault ((Text × Text) × Cursor) := do
  let (suffix, c) ← scanUri at_ true [] c.skip.skip
  if c.peek != some '>' then throw (.during .tag at_.start .uriClose c.mark)
  pure (([], suffix), c.skip)

/-- Reads a tag from its exclamation mark on. -/
def scanTag (inFlow : Bool) (c : Cursor) : Except Fault ((Text × Text) × Cursor) := do
  let at_ : Setting := ⟨false, c.mark⟩
  let (tag, after) ←
    if c.peekAt 1 = some '<' then scanVerbatim at_ c else scanShorthand at_ c
  if !isBlankOrEnd after.peek && !(inFlow && after.peek = some ',') then
    throw (.during .tag at_.start .blankOrLineEnd after.mark)
  pure (tag, after)

/-! ## Directives -/

/-- Reads a number of a version. -/
def scanVersionNumber (start : Mark) (c : Cursor) : Except Fault (Nat × Cursor) :=
  let (digits, after) := c.takeWhile Char.isDigit
  if 9 < digits.length then
    .error (.during .versionDirective start .versionLength
      ⟨c.mark.index + 9, c.mark.line, c.mark.column + 9⟩)
  else match Text.natural? 10 digits with
    | none => .error (.during .versionDirective start .versionNumber after.mark)
    | some n => .ok (n, after)

/-- Reads a version after the name of its directive. -/
def scanVersion (start : Mark) (c : Cursor) : Except Fault (TokenKind × Cursor) := do
  let (major, c) ← scanVersionNumber start (c.skipWhile isBlank)
  if c.peek != some '.' then throw (.during .versionDirective start .versionDot c.mark)
  let (minor, c) ← scanVersionNumber start c.skip
  pure (.versionDirective major minor, c)

/-- Reads a handle and what it stands for after the name of their directive. -/
def scanTagDirective (start : Mark) (c : Cursor) : Except Fault (TokenKind × Cursor) := do
  let at_ : Setting := ⟨true, start⟩
  let (handle, c) ← scanHandle at_ (c.skipWhile isBlank)
  if !c.peek.any isBlank then throw (.during .tagDirective start .blank c.mark)
  let (expansion, c) ← scanUri at_ true [] (c.skipWhile isBlank)
  if !isBlankOrEnd c.peek then throw (.during .tagDirective start .blankOrLineEnd c.mark)
  pure (.tagDirective handle expansion, c)

/-- Reads a directive from its percent sign on, with the rest of its line. -/
def scanDirective (c : Cursor) : Except Fault (Token × Cursor) := do
  let start := c.mark
  let (name, c) := c.skip.takeWhile isWordChar
  if name = [] then throw (.during .directive start .directiveName c.mark)
  if !isBlankOrEnd c.peek then throw (.during .directive start .directiveNameEnd c.mark)
  let (kind, c) ←
    if name = "YAML".toList then scanVersion start c
    else if name = "TAG".toList then scanTagDirective start c
    else throw (.during .directive start .unknownDirective c.mark)
  let lineEnd := (c.skipWhile isBlank).skipComment
  if !isBreakOrEnd lineEnd.peek then throw (.during .directive start .lineEnd lineEnd.mark)
  pure (⟨kind, start, c.mark⟩, lineEnd.skipBreak)

end JobsGateway.Yaml.Property
