import JobsGateway.Yaml.Event
import JobsGateway.Yaml.TokenStream

/-!
# The stream of events

Events are made from tokens one at a time. What may come next is a state; the states to go back to
when a node is complete are kept on a stack, and so are the places where the open collections began.
A node that is left out counts as an empty scalar.
-/

namespace JobsGateway.Yaml

/-- What is to be read next. -/
inductive Expectation where
  | streamStart
  | implicitDocumentStart
  | documentStart
  | documentContent
  | documentEnd
  | blockNode
  | blockSequenceFirst
  | blockSequenceEntry
  | indentlessSequenceEntry
  | blockMappingFirst
  | blockMappingKey
  | blockMappingValue
  | flowSequenceFirst
  | flowSequenceEntry
  | flowPairKey
  | flowPairValue
  | flowPairEnd
  | flowMappingFirst
  | flowMappingKey
  | flowMappingValue
  | flowMappingEmptyValue
  | nothing
  deriving Repr, DecidableEq, Inhabited

/-- The events of a text as far as they have been made. `handles` says what the handles of tags
stand for in the current document. -/
structure EventStream where
  tokens : TokenStream
  expectation : Expectation
  stack : List Expectation
  opened : List Mark
  handles : List (Text × Text)
  deriving Repr, DecidableEq, Inhabited

/-- An event and the stream after it, or what is wrong. -/
abbrev EventStep := Except Fault (YamlEvent × EventStream)

namespace EventStream

/-- The stream of a text of which nothing has been read. -/
def ofText (text : Text) : EventStream :=
  ⟨.ofText text, .streamStart, [], [], []⟩

/-- The next token. -/
def peek (s : EventStream) : Except Fault (Token × EventStream) :=
  s.tokens.peek.map fun p => (p.1, { s with tokens := p.2 })

/-- The stream without the next token. -/
def drop (s : EventStream) : EventStream :=
  { s with tokens := s.tokens.drop }

/-- The stream in which something is expected. -/
def expect (s : EventStream) (e : Expectation) : EventStream :=
  { s with expectation := e }

/-- The stream that will later expect something. -/
def later (s : EventStream) (e : Expectation) : EventStream :=
  { s with stack := e :: s.stack }

/-- The stream that goes back to what was expected before. -/
def back (s : EventStream) : EventStream :=
  match s.stack with
  | e :: rest => { s with expectation := e, stack := rest }
  | [] => { s with expectation := .nothing }

/-- The stream inside a collection that began at a place. -/
def enter (s : EventStream) (m : Mark) : EventStream :=
  { s with opened := m :: s.opened }

/-- The stream outside the innermost collection. -/
def leave (s : EventStream) : EventStream :=
  { s with opened := s.opened.drop 1 }

/-- Where the innermost collection began. -/
def since (s : EventStream) : Mark :=
  s.opened.headD .zero

/-- An event of a kind at a place. -/
def emit (s : EventStream) (kind : EventKind) (start : Mark) : EventStep :=
  .ok (⟨kind, start⟩, s)

/-- The empty scalar that stands for a node that is left out. -/
def emitEmpty (s : EventStream) (start : Mark) : EventStep :=
  s.emit (.scalar none ⟨[], none, .plain⟩) start

/-! ## Nodes -/

/-- What stands before a node: an anchor, and a tag with its place. -/
structure Properties where
  anchor : Option Text
  tag : Option (Text × Text × Mark)
  start : Option Mark
  deriving Repr, DecidableEq, Inhabited

/-- Reads anchor and tag of a node, in either order. -/
def readProperties (s : EventStream) : Except Fault (Properties × EventStream) := do
  let (t, s) ← s.peek
  match t.kind with
  | .anchor name =>
    let (u, s) ← s.drop.peek
    match u.kind with
    | .tag handle suffix => pure (⟨some name, some (handle, suffix, u.start), some t.start⟩, s.drop)
    | _ => pure (⟨some name, none, some t.start⟩, s)
  | .tag handle suffix =>
    let (u, s) ← s.drop.peek
    match u.kind with
    | .anchor name => pure (⟨some name, some (handle, suffix, t.start), some t.start⟩, s.drop)
    | _ => pure (⟨none, some (handle, suffix, t.start), some t.start⟩, s)
  | _ => pure (⟨none, none, none⟩, s)

/-- The full tag of a node. -/
def resolveTag (s : EventStream) (start : Mark) :
    Option (Text × Text × Mark) → Except Fault (Option Text)
  | none => .ok none
  | some (handle, suffix, mark) =>
    if handle = [] then .ok (some suffix)
    else match s.handles.lookup handle with
      | some expansion => .ok (some (expansion ++ suffix))
      | none => .error (.during .node start .unknownHandle mark)

/-- The tag of a scalar: an exclamation mark alone does not count. -/
def scalarTag (tag : Option Text) : Option Text :=
  tag.filter (· != ['!'])

/-- Reads a node with properties from its own first token on. -/
def readContent (s : EventStream) (block indentless : Bool) (properties : Properties)
    (tag : Option Text) (start : Mark) (t : Token) : EventStep :=
  match t.kind with
  | .blockEntry =>
    if indentless then
      (s.expect .indentlessSequenceEntry).emit (.sequenceStart properties.anchor) start
    else empty t
  | .scalar text style =>
    s.back.drop.emit (.scalar properties.anchor ⟨text, scalarTag tag, style⟩) start
  | .flowSequenceStart =>
    (s.expect .flowSequenceFirst).emit (.sequenceStart properties.anchor) start
  | .flowMappingStart =>
    (s.expect .flowMappingFirst).emit (.mappingStart properties.anchor) start
  | .blockSequenceStart =>
    if block then (s.expect .blockSequenceFirst).emit (.sequenceStart properties.anchor) start
    else empty t
  | .blockMappingStart =>
    if block then (s.expect .blockMappingFirst).emit (.mappingStart properties.anchor) start
    else empty t
  | _ => empty t
where
  /-- A node of properties only is an empty scalar. -/
  empty (t : Token) : EventStep :=
    if properties.anchor.isSome || tag.isSome then
      s.back.emit (.scalar properties.anchor ⟨[], tag, .plain⟩) start
    else
      .error (.during (if block then .blockNode else .flowNode) start .nodeContent t.start)

/-- Reads a node. Outside brackets it may be a collection that is shown by indentation; as the value
of a key it may also be a sequence without any indentation. -/
def readNode (s : EventStream) (block indentless : Bool) : EventStep := do
  let (t, s) ← s.peek
  match t.kind with
  | .alias name => s.back.drop.emit (.alias name) t.start
  | _ =>
    let (properties, s) ← s.readProperties
    let start := properties.start.getD t.start
    let (t, s) ← s.peek
    let tag ← s.resolveTag start properties.tag
    s.readContent block indentless properties tag start t

/-! ## Documents -/

/-- The handles that every document has, unless it says otherwise. -/
def defaultHandles : List (Text × Text) :=
  [("!".toList, "!".toList), ("!!".toList, "tag:yaml.org,2002:".toList)]

/-- Reads the directives before a document. `room` bounds how many there are. -/
def readDirectives (room : Nat) (versioned : Bool) (handles : List (Text × Text))
    (s : EventStream) : Except Fault EventStream := do
  let (t, s) ← s.peek
  match room, t.kind with
  | room + 1, .versionDirective major minor =>
    if versioned then throw (.at .duplicateVersion t.start)
    if major != 1 || (minor != 1 && minor != 2) then throw (.at .versionUnsupported t.start)
    readDirectives room true handles s.drop
  | room + 1, .tagDirective handle expansion =>
    if (handles.lookup handle).isSome then throw (.at .duplicateHandle t.start)
    readDirectives room versioned (handles ++ [(handle, expansion)]) s.drop
  | _, _ => pure { s with handles := handles ++ defaultHandles }

/-- Passes over the marks that end documents. -/
def skipDocumentEnds (room : Nat) (s : EventStream) : Except Fault EventStream := do
  let (t, s) ← s.peek
  match room, t.kind with
  | room + 1, .documentEnd => skipDocumentEnds room s.drop
  | _, _ => pure s

/-- An upper bound for the number of tokens that are left. -/
def room (s : EventStream) : Nat :=
  s.tokens.cursor.rest.length + s.tokens.queue.length

/-- Reads the beginning of a document that has to be marked. -/
def readMarkedDocument (s : EventStream) (start : Mark) : EventStep := do
  let s ← s.readDirectives s.room false []
  let (t, s) ← s.peek
  if t.kind != .documentStart then throw (.at .documentStart t.start)
  ((s.later .documentEnd).expect .documentContent).drop.emit .documentStart start

/-- Reads the beginning of a document, or the end of the stream. Only the first document may begin
without a mark. -/
def readDocumentStart (s : EventStream) (implicit : Bool) : EventStep := do
  let s ← if implicit then pure s else skipDocumentEnds s.room s
  let (t, s) ← s.peek
  match t.kind with
  | .streamEnd => (s.expect .nothing).drop.emit .streamEnd t.start
  | .versionDirective _ _ => s.readMarkedDocument t.start
  | .tagDirective _ _ => s.readMarkedDocument t.start
  | .documentStart => s.readMarkedDocument t.start
  | _ =>
    if implicit then do
      let s ← s.readDirectives 0 false []
      ((s.later .documentEnd).expect .blockNode).emit .documentStart t.start
    else s.readMarkedDocument t.start

/-- Reads the content of a document after its mark. -/
def readDocumentContent (s : EventStream) : EventStep := do
  let (t, s) ← s.peek
  match t.kind with
  | .versionDirective _ _ => s.back.emitEmpty t.start
  | .tagDirective _ _ => s.back.emitEmpty t.start
  | .documentStart => s.back.emitEmpty t.start
  | .documentEnd => s.back.emitEmpty t.start
  | .streamEnd => s.back.emitEmpty t.start
  | _ => s.readNode true false

/-- Reads the end of a document. -/
def readDocumentEnd (s : EventStream) : EventStep := do
  let (t, s) ← s.peek
  let s := if t.kind = .documentEnd then s.drop else s
  ({ s with handles := [] }.expect .documentStart).emit .documentEnd t.start

/-! ## Collections shown by indentation -/

/-- Whether a token ends the entry of a block collection. -/
def endsBlockEntry : TokenKind → Bool
  | .blockEntry => true
  | .blockEnd => true
  | _ => false

/-- Whether a token ends the key or value of a block mapping. -/
def endsBlockPair : TokenKind → Bool
  | .key => true
  | .value => true
  | .blockEnd => true
  | _ => false

/-- Passes over the token that opens a collection, and notes its place. -/
def openCollection (s : EventStream) : Except Fault EventStream := do
  let (t, s) ← s.peek
  pure (s.enter t.start).drop

/-- Reads an entry of a block sequence, or its end. -/
def readBlockEntry (s : EventStream) : EventStep := do
  let (t, s) ← s.peek
  match t.kind with
  | .blockEntry =>
    let (u, s) ← s.drop.peek
    if endsBlockEntry u.kind then (s.expect .blockSequenceEntry).emitEmpty t.stop
    else (s.later .blockSequenceEntry).readNode true false
  | .blockEnd => s.back.leave.drop.emit .sequenceEnd t.start
  | _ => throw (.during .blockCollection s.since .blockEntry t.start)

/-- Reads an entry of a sequence that is not indented, or its end. -/
def readIndentlessEntry (s : EventStream) : EventStep := do
  let (t, s) ← s.peek
  match t.kind with
  | .blockEntry =>
    let (u, s) ← s.drop.peek
    if endsBlockEntry u.kind || endsBlockPair u.kind then
      (s.expect .indentlessSequenceEntry).emitEmpty t.stop
    else (s.later .indentlessSequenceEntry).readNode true false
  | _ => s.back.emit .sequenceEnd t.start

/-- Reads a key of a block mapping, or its end. -/
def readBlockKey (s : EventStream) : EventStep := do
  let (t, s) ← s.peek
  match t.kind with
  | .key =>
    let (u, s) ← s.drop.peek
    if endsBlockPair u.kind then (s.expect .blockMappingValue).emitEmpty t.stop
    else (s.later .blockMappingValue).readNode true true
  | .blockEnd => s.back.leave.drop.emit .mappingEnd t.start
  | _ => throw (.during .blockMapping s.since .blockKey t.start)

/-- Reads a value of a block mapping. -/
def readBlockValue (s : EventStream) : EventStep := do
  let (t, s) ← s.peek
  match t.kind with
  | .value =>
    let (u, s) ← s.drop.peek
    if endsBlockPair u.kind then (s.expect .blockMappingKey).emitEmpty t.stop
    else (s.later .blockMappingKey).readNode true true
  | _ => (s.expect .blockMappingKey).emitEmpty t.start

/-! ## Collections in brackets -/

/-- Whether a token ends an entry of a sequence in brackets. -/
def endsFlowEntry : TokenKind → Bool
  | .flowEntry => true
  | .flowSequenceEnd => true
  | _ => false

/-- Whether a token ends a value of a mapping in braces. -/
def endsFlowPair : TokenKind → Bool
  | .flowEntry => true
  | .flowMappingEnd => true
  | _ => false

/-- Reads the comma before a further item. -/
def readComma (s : EventStream) (first : Bool) (activity : Activity) (p : Problem) :
    Except Fault (Token × EventStream) := do
  let (t, s) ← s.peek
  if first then pure (t, s)
  else if t.kind = .flowEntry then s.drop.peek
  else throw (.during activity s.since p t.start)

/-- Ends a collection in brackets. -/
def closeFlow (s : EventStream) (t : Token) (kind : EventKind) : EventStep :=
  s.back.leave.drop.emit kind t.start

/-- Reads an entry of a sequence in brackets, or its end. -/
def readFlowEntry (s : EventStream) (first : Bool) : EventStep := do
  let (t, s) ← s.peek
  if t.kind = .flowSequenceEnd then s.closeFlow t .sequenceEnd
  else
    let (t, s) ← s.readComma first .flowSequence .flowSequenceItem
    match t.kind with
    | .key => (s.expect .flowPairKey).drop.emit (.mappingStart none) t.start
    | .flowSequenceEnd => s.closeFlow t .sequenceEnd
    | _ => (s.later .flowSequenceEntry).readNode false false

/-- Reads the key of a single pair in a sequence. A key that is left out takes the token after it
along. -/
def readFlowPairKey (s : EventStream) : EventStep := do
  let (t, s) ← s.peek
  if t.kind = .value || endsFlowEntry t.kind then (s.drop.expect .flowPairValue).emitEmpty t.stop
  else (s.later .flowPairValue).readNode false false

/-- Reads the value of a single pair in a sequence. -/
def readFlowPairValue (s : EventStream) : EventStep := do
  let (t, s) ← s.peek
  match t.kind with
  | .value =>
    let (u, s) ← s.drop.peek
    if endsFlowEntry u.kind then (s.expect .flowPairEnd).emitEmpty u.start
    else (s.later .flowPairEnd).readNode false false
  | _ => (s.expect .flowPairEnd).emitEmpty t.start

/-- Ends a single pair in a sequence. -/
def readFlowPairEnd (s : EventStream) : EventStep := do
  let (t, s) ← s.peek
  (s.expect .flowSequenceEntry).emit .mappingEnd t.start

/-- Reads a key of a mapping in braces, or its end. -/
def readFlowKey (s : EventStream) (first : Bool) : EventStep := do
  let (t, s) ← s.peek
  if t.kind = .flowMappingEnd then s.closeFlow t .mappingEnd
  else
    let (t, s) ← s.readComma first .flowMapping .flowMappingItem
    match t.kind with
    | .key =>
      let (u, s) ← s.drop.peek
      if u.kind = .value || endsFlowPair u.kind then (s.expect .flowMappingValue).emitEmpty u.start
      else (s.later .flowMappingValue).readNode false false
    | .flowMappingEnd => s.closeFlow t .mappingEnd
    | _ => (s.later .flowMappingEmptyValue).readNode false false

/-- Reads a value of a mapping in braces. -/
def readFlowValue (s : EventStream) : EventStep := do
  let (t, s) ← s.peek
  match t.kind with
  | .value =>
    let (u, s) ← s.drop.peek
    if endsFlowPair u.kind then (s.expect .flowMappingKey).emitEmpty u.start
    else (s.later .flowMappingKey).readNode false false
  | _ => (s.expect .flowMappingKey).emitEmpty t.start

/-- Reads the value of a key in braces that has none. -/
def readFlowEmptyValue (s : EventStream) : EventStep := do
  let (t, s) ← s.peek
  (s.expect .flowMappingKey).emitEmpty t.start

/-! ## The next event -/

/-- The next event. -/
def next (s : EventStream) : EventStep :=
  match s.expectation with
  | .streamStart => do
    let (t, s) ← s.peek
    (s.expect .implicitDocumentStart).drop.emit .streamStart t.start
  | .implicitDocumentStart => s.readDocumentStart true
  | .documentStart => s.readDocumentStart false
  | .documentContent => s.readDocumentContent
  | .documentEnd => s.readDocumentEnd
  | .blockNode => s.readNode true false
  | .blockSequenceFirst => s.openCollection.bind readBlockEntry
  | .blockSequenceEntry => s.readBlockEntry
  | .indentlessSequenceEntry => s.readIndentlessEntry
  | .blockMappingFirst => s.openCollection.bind readBlockKey
  | .blockMappingKey => s.readBlockKey
  | .blockMappingValue => s.readBlockValue
  | .flowSequenceFirst => s.openCollection.bind fun s => s.readFlowEntry true
  | .flowSequenceEntry => s.readFlowEntry false
  | .flowPairKey => s.readFlowPairKey
  | .flowPairValue => s.readFlowPairValue
  | .flowPairEnd => s.readFlowPairEnd
  | .flowMappingFirst => s.openCollection.bind fun s => s.readFlowKey true
  | .flowMappingKey => s.readFlowKey false
  | .flowMappingValue => s.readFlowValue
  | .flowMappingEmptyValue => s.readFlowEmptyValue
  | .nothing => s.emit .streamEnd s.tokens.mark

end EventStream

end JobsGateway.Yaml
