import JobsGateway.Yaml.Property
import JobsGateway.Yaml.Scalar.Block
import JobsGateway.Yaml.Scalar.Plain
import JobsGateway.Yaml.Scalar.Quoted

/-!
# The stream of tokens

Tokens are found one after the other, but a key without a question mark is only known as a key when
its colon is reached. So tokens wait in a queue as long as the first of them may still turn out to
be such a key, and the marks for it are put into the queue afterwards. A place for a key is lost
when its line ends or after 1024 characters.

Outside brackets the indentation opens and closes collections; the columns of the open ones are kept
on a stack.
-/

namespace JobsGateway.Yaml

/-- A place where a key may have begun: the number of the token that would be its first, and
whether nothing but a key may stand there. -/
structure KeyPlace where
  required : Bool
  token : Nat
  mark : Mark
  deriving Repr, DecidableEq, Inhabited

/-- The tokens of a text as far as they have been found. `taken` counts the tokens that have left
the queue. `indent` is the column of the innermost collection, `-1` outside all, and `indents` those
around it. `keyPlaces` has one place for each open bracket and one for the text around them, the
innermost first. -/
structure TokenStream where
  cursor : Cursor
  queue : List Token
  taken : Nat
  started : Bool
  keyAllowed : Bool
  indent : Int
  indents : List Int
  keyPlaces : List (Option KeyPlace)
  deriving Repr, DecidableEq, Inhabited

namespace TokenStream

/-- The stream of a text of which nothing has been read. -/
def ofText (text : Text) : TokenStream :=
  ⟨⟨text, .zero⟩, [], 0, false, false, -1, [], []⟩

/-- Whether the cursor stands inside brackets. -/
def inFlow (s : TokenStream) : Bool :=
  2 ≤ s.keyPlaces.length

/-- The mark of the cursor. -/
def mark (s : TokenStream) : Mark :=
  s.cursor.mark

/-- The stream with one more token in the queue. -/
def push (s : TokenStream) (t : Token) : TokenStream :=
  { s with queue := s.queue ++ [t] }

/-- The stream with a token put before the one of a number. -/
def insertAt (s : TokenStream) (number : Nat) (t : Token) : TokenStream :=
  { s with queue := s.queue.insertIdx (number - s.taken) t }

/-- The stream with a token of some characters read. -/
def pushMark (s : TokenStream) (kind : TokenKind) (chars : Nat) : TokenStream :=
  let after := Nat.repeat Cursor.skip chars s.cursor
  { s with cursor := after, queue := s.queue ++ [⟨kind, s.mark, after.mark⟩] }

/-! ## Places for keys -/

/-- Whether it is too late for a key that began at a place. -/
def isStale (s : TokenStream) (k : KeyPlace) : Bool :=
  k.mark.line < s.mark.line || k.mark.index + 1024 < s.mark.index

/-- The fault of a key without its colon. -/
def keyFault (s : TokenStream) (k : KeyPlace) : Fault :=
  .during .simpleKey k.mark .missingColon s.mark

/-- Gives up a place for a key unless it may still be one. -/
def keepFresh (s : TokenStream) : Option KeyPlace → Except Fault (Option KeyPlace)
  | none => .ok none
  | some k =>
    if !s.isStale k then .ok (some k)
    else if k.required then .error (s.keyFault k)
    else .ok none

/-- Gives up all places for keys for which it is too late, from the outside to the inside. -/
def dropStale (s : TokenStream) : Except Fault TokenStream := do
  let places ← s.keyPlaces.reverse.mapM s.keepFresh
  pure { s with keyPlaces := places.reverse }

/-- Replaces the innermost place for a key. One that is required must not be given up. -/
def setKey (s : TokenStream) (place : Option KeyPlace) : Except Fault TokenStream :=
  match s.keyPlaces with
  | some k :: outer =>
    if k.required then .error (s.keyFault k) else .ok { s with keyPlaces := place :: outer }
  | none :: outer => .ok { s with keyPlaces := place :: outer }
  | [] => .ok s

/-- Gives up the innermost place for a key. -/
def dropKey (s : TokenStream) : Except Fault TokenStream :=
  s.setKey none

/-- Notes that a key may begin at the cursor. -/
def saveKey (s : TokenStream) : Except Fault TokenStream :=
  if s.keyAllowed then
    s.setKey (some ⟨!s.inFlow && s.indent = s.mark.column, s.taken + s.queue.length, s.mark⟩)
  else .ok s

/-- The stream in which a key may or may not come next. -/
def allowKey (s : TokenStream) (allowed : Bool) : TokenStream :=
  { s with keyAllowed := allowed }

/-! ## Indentation -/

/-- Opens a collection in a column that is further right than the innermost one. The token is put
before the one of a number, or at the end. -/
def roll (s : TokenStream) (column : Nat) (number : Option Nat) (kind : TokenKind) (mark : Mark) :
    TokenStream :=
  if !s.inFlow && s.indent < column then
    let s := { s with indents := s.indent :: s.indents, indent := column }
    match number with
    | some n => s.insertAt n ⟨kind, mark, mark⟩
    | none => s.push ⟨kind, mark, mark⟩
  else s

/-- Closes the collections in a list of columns that are further right than `column`. -/
def unrollFrom (s : TokenStream) (column : Int) : List Int → TokenStream
  | [] => s
  | outer :: more =>
    if column < s.indent then
      unrollFrom { s.push ⟨.blockEnd, s.mark, s.mark⟩ with indent := outer, indents := more } column
        more
    else s

/-- Closes the collections that are further right than `column`. -/
def unroll (s : TokenStream) (column : Int) : TokenStream :=
  if s.inFlow then s else s.unrollFrom column s.indents

/-! ## Single tokens -/

/-- Reads a token that takes the place of a key's beginning. -/
def fetchNode (s : TokenStream) (scan : Cursor → Except Fault (TokenKind × Cursor)) :
    Except Fault TokenStream := do
  let s ← s.saveKey
  let (kind, after) ← scan s.cursor
  pure ({ s.push ⟨kind, s.mark, after.mark⟩ with cursor := after }.allowKey false)

/-- Begins the stream. -/
def fetchStreamStart (s : TokenStream) : TokenStream :=
  { s.push ⟨.streamStart, s.mark, s.mark⟩ with
    started := true, keyAllowed := true, keyPlaces := [none] }

/-- Ends the stream, in a new line. -/
def fetchStreamEnd (s : TokenStream) : Except Fault TokenStream := do
  let s := if s.mark.column = 0 then s
    else { s with cursor := ⟨s.cursor.rest, ⟨s.mark.index, s.mark.line + 1, 0⟩⟩ }
  let s ← (s.unroll (-1)).dropKey
  pure ((s.allowKey false).push ⟨.streamEnd, s.mark, s.mark⟩)

/-- Reads a directive. -/
def fetchDirective (s : TokenStream) : Except Fault TokenStream := do
  let s ← (s.unroll (-1)).dropKey
  let (token, after) ← Property.scanDirective s.cursor
  pure ({ s.push token with cursor := after }.allowKey false)

/-- Reads a mark between documents. -/
def fetchDocumentMark (s : TokenStream) (kind : TokenKind) : Except Fault TokenStream := do
  let s ← (s.unroll (-1)).dropKey
  pure ((s.allowKey false).pushMark kind 3)

/-- Reads an opening bracket. -/
def fetchOpening (s : TokenStream) (kind : TokenKind) : Except Fault TokenStream := do
  let s ← s.saveKey
  pure (({ s with keyPlaces := none :: s.keyPlaces }.allowKey true).pushMark kind 1)

/-- Reads a closing bracket. -/
def fetchClosing (s : TokenStream) (kind : TokenKind) : Except Fault TokenStream := do
  let s ← s.dropKey
  let s := if s.inFlow then { s with keyPlaces := s.keyPlaces.drop 1 } else s
  pure ((s.allowKey false).pushMark kind 1)

/-- Reads a comma between brackets. -/
def fetchFlowEntry (s : TokenStream) : Except Fault TokenStream := do
  let s ← s.dropKey
  pure ((s.allowKey true).pushMark .flowEntry 1)

/-- Opens a collection at the cursor, where its first mark may stand. -/
def openBlock (s : TokenStream) (kind : TokenKind) (p : Problem) : Except Fault TokenStream :=
  if s.inFlow then .ok s
  else if !s.keyAllowed then .error (.at p s.mark)
  else .ok (s.roll s.mark.column none kind s.mark)

/-- Reads the dash of an entry. -/
def fetchBlockEntry (s : TokenStream) : Except Fault TokenStream := do
  let s ← s.openBlock .blockSequenceStart .blockEntryPlace
  let s ← s.dropKey
  pure ((s.allowKey true).pushMark .blockEntry 1)

/-- Reads the question mark of a key. -/
def fetchKey (s : TokenStream) : Except Fault TokenStream := do
  let s ← s.openBlock .blockMappingStart .keyPlace
  let s ← s.dropKey
  pure ((s.allowKey !s.inFlow).pushMark .key 1)

/-- Reads the colon of a value. If a key has begun before it, that is marked now. -/
def fetchValue (s : TokenStream) : Except Fault TokenStream :=
  match s.keyPlaces with
  | some k :: outer =>
    let s := s.insertAt k.token ⟨.key, k.mark, k.mark⟩
    let s := s.roll k.mark.column (some k.token) .blockMappingStart k.mark
    .ok (({ s with keyPlaces := none :: outer }.allowKey false).pushMark .value 1)
  | _ => do
    let s ← s.openBlock .blockMappingStart .valuePlace
    pure ((s.allowKey !s.inFlow).pushMark .value 1)

/-- Reads a block scalar. -/
def fetchBlockScalar (s : TokenStream) (folded : Bool) : Except Fault TokenStream := do
  let s ← s.dropKey
  let (text, after) ← Block.scan folded s.indent s.mark s.cursor.skip
  let kind := TokenKind.scalar text (if folded then .folded else .literal)
  pure ({ s.push ⟨kind, s.mark, after.mark⟩ with cursor := after }.allowKey true)

/-- Reads a quoted scalar. -/
def fetchQuoted (s : TokenStream) (double : Bool) : Except Fault TokenStream :=
  s.fetchNode fun c =>
    (Quoted.scan double c.mark ⟨[], .none, c.mark.next⟩ c.skip.rest).map fun p =>
      (.scalar p.1 (if double then .doubleQuoted else .singleQuoted), p.2)

/-- Reads a plain scalar. If it ends in another line, a key may come next. -/
def fetchPlain (s : TokenStream) : Except Fault TokenStream := do
  let s ← s.saveKey
  let (state, rest) ←
    Plain.scan ⟨s.inFlow, s.indent + 1, s.mark⟩ ⟨[], .none, s.mark⟩ s.cursor.rest
  let token : Token := ⟨.scalar state.out.reverse .plain, s.mark, state.mark⟩
  pure ({ s.push token with cursor := ⟨rest, state.mark⟩ }.allowKey state.gap.broken)

/-- Reads an anchor. -/
def fetchAnchor (s : TokenStream) : Except Fault TokenStream :=
  s.fetchNode fun c =>
    (Property.scanAnchor .anchor c.mark c.skip).map fun p => (.anchor p.1, p.2)

/-- Reads an alias. -/
def fetchAlias (s : TokenStream) : Except Fault TokenStream :=
  s.fetchNode fun c =>
    (Property.scanAnchor .alias c.mark c.skip).map fun p => (.alias p.1, p.2)

/-- Reads a tag. -/
def fetchTag (s : TokenStream) : Except Fault TokenStream :=
  s.fetchNode fun c =>
    (Property.scanTag s.inFlow c).map fun p => (.tag p.1.1 p.1.2, p.2)

/-! ## The next token -/

/-- Passes over blanks, comments and line breaks. `room` bounds the number of lines. -/
def skipToToken (room : Nat) (s : TokenStream) : TokenStream :=
  let start := if s.mark.index = 0 && s.cursor.peek = some '\ufeff' then s.cursor.skip else s.cursor
  let blanks := start.skipWhile fun c => c == ' ' || (c == '\t' && (s.inFlow || !s.keyAllowed))
  let c := blanks.skipComment
  match room with
  | 0 => { s with cursor := c }
  | room + 1 =>
    if c.peek.any isBreak then
      skipToToken room { s with cursor := c.skipBreak, keyAllowed := s.keyAllowed || !s.inFlow }
    else { s with cursor := c }

/-- Whether a plain scalar may start with `c`, given what comes next. -/
def startsPlain (inFlow : Bool) (c : Char) (next : Option Char) : Bool :=
  if c == '-' then !next.any isBlank
  else if c == '?' || c == ':' then !inFlow && !isBlankOrEnd next
  else !(isBlank c || isBreak c || ",[]\x7b\x7d#&*!|>'\"%@`".toList.contains c)

/-- Reads the next token in a text that goes on with `c`. -/
def fetchAt (s : TokenStream) (c : Char) : Except Fault TokenStream :=
  let next := s.cursor.peekAt 1
  if s.mark.column = 0 && c == '%' then s.fetchDirective
  else if s.mark.column = 0 && startsDocumentMark s.cursor.rest then
    s.fetchDocumentMark (if c == '-' then .documentStart else .documentEnd)
  else if c == '[' then s.fetchOpening .flowSequenceStart
  else if c == '\x7b' then s.fetchOpening .flowMappingStart
  else if c == ']' then s.fetchClosing .flowSequenceEnd
  else if c == '\x7d' then s.fetchClosing .flowMappingEnd
  else if c == ',' then s.fetchFlowEntry
  else if c == '-' && isBlankOrEnd next then s.fetchBlockEntry
  else if c == '?' && (s.inFlow || isBlankOrEnd next) then s.fetchKey
  else if c == ':' && (s.inFlow || isBlankOrEnd next) then s.fetchValue
  else if c == '*' then s.fetchAlias
  else if c == '&' then s.fetchAnchor
  else if c == '!' then s.fetchTag
  else if c == '|' && !s.inFlow then s.fetchBlockScalar false
  else if c == '>' && !s.inFlow then s.fetchBlockScalar true
  else if c == '\'' then s.fetchQuoted false
  else if c == '"' then s.fetchQuoted true
  else if startsPlain s.inFlow c next then s.fetchPlain
  else .error (.during .nextToken s.mark .tokenStart s.mark)

/-- Reads the next token, with the marks that the indentation asks for. -/
def fetchNext (s : TokenStream) : Except Fault TokenStream :=
  if !s.started then .ok s.fetchStreamStart
  else do
    let s ← (skipToToken s.cursor.rest.length s).dropStale
    let s := s.unroll s.mark.column
    match s.cursor.peek with
    | none => s.fetchStreamEnd
    | some c => s.fetchAt c

/-- Whether the first token of the queue may still turn out to be a key. -/
def isUndecided (s : TokenStream) : Bool :=
  s.keyPlaces.any fun
    | some k => k.token = s.taken
    | none => false

/-- Reads tokens until the first of the queue is certain. -/
def settle (room : Nat) (s : TokenStream) : Except Fault TokenStream :=
  match room with
  | 0 => .ok s
  | room + 1 =>
    if s.queue = [] then s.fetchNext.bind (settle room)
    else do
      let s ← s.dropStale
      if s.isUndecided then s.fetchNext.bind (settle room) else pure s

/-- The first token of the queue, and the stream with that token certain. -/
def peek (s : TokenStream) : Except Fault (Token × TokenStream) := do
  let s ← settle (s.cursor.rest.length + 3) s
  match s.queue with
  | t :: _ => pure (t, s)
  | [] => pure (⟨.streamEnd, s.mark, s.mark⟩, s)

/-- The stream without the first token of the queue. -/
def drop (s : TokenStream) : TokenStream :=
  { s with queue := s.queue.drop 1, taken := s.taken + 1 }

end TokenStream

end JobsGateway.Yaml
