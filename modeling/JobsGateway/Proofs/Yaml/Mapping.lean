import JobsGateway.Proofs.Yaml.Tokens
import JobsGateway.Yaml.Document

/-!
# Mappings of one scalar a line

A text in which every line is a key, a colon, a space and a value is one document.
Its nodes are those of a mapping: the keys and the values by turns, as they stand
in the text.
-/

namespace JobsGateway.Yaml

/-! ## Lines -/

/-- A scalar that may begin a line as a key: it is not too long, and it is not taken
for a mark between documents. -/
structure Key extends OneLine false where
  short : source.length ≤ 1024
  unmarked : startsDocumentMark (source ++ [':']) = false

/-- A key and its value. -/
structure Entry where
  key : Key
  value : OneLine true

/-- The meaning of a scalar in one line. -/
def OneLine.scalar {ends : Bool} (w : OneLine ends) : Scalar :=
  ⟨w.text, none, w.style⟩

namespace Entry

/-- The line of a key and its value. -/
def source (e : Entry) : Text :=
  e.key.source ++ ':' :: ' ' :: e.value.source

/-- The break after a line. Whether the last one has it is up to `ended`. -/
def lineEnd (ended : Bool) (rest : List Entry) : Text :=
  if ended || !rest.isEmpty then ['\n'] else []

/-- The text of some lines. -/
def textOf (ended : Bool) : List Entry → Text
  | [] => []
  | e :: rest => e.source ++ (lineEnd ended rest ++ textOf ended rest)

/-- The nodes of some lines, up to the end of the mapping. -/
def nodesOf : List Entry → List Node
  | [] => [.mappingEnd]
  | e :: rest => .scalar e.key.scalar :: .scalar e.value.scalar :: nodesOf rest

theorem textOf_cons (ended : Bool) (e : Entry) (rest : List Entry) :
    textOf ended (e :: rest) = e.key.source ++
      ':' :: ' ' :: (e.value.source ++ (lineEnd ended rest ++ textOf ended rest)) := by
  simp [textOf, source]

theorem lineEnd_cases (ended : Bool) (rest : List Entry) :
    lineEnd ended rest = ['\n'] ∨ lineEnd ended rest = [] ∧ textOf ended rest = [] := by
  unfold lineEnd
  split
  · exact Or.inl rfl
  · rename_i hover
    cases rest with
    | nil => exact Or.inr ⟨rfl, rfl⟩
    | cons e rest => simp at hover

theorem startsToken_textOf (ended : Bool) (entries : List Entry) :
    StartsToken (textOf ended entries) := by
  cases entries with
  | nil => rintro c ⟨⟩
  | cons e rest =>
      rw [textOf_cons]
      exact e.key.inLine.startsToken _

end Entry

/-! ## Events -/

namespace EventStream

variable {s : EventStream} {t : TokenStream} {opened : Bool} {kind : TokenKind}
  {kinds : List TokenKind} {text : Text} {style : Style}

theorem peek_of_shows (h : s.tokens.Shows opened (kind :: kinds) t) :
    ∃ start stop, s.peek = .ok (⟨kind, start, stop⟩, { s with tokens := t }) := by
  obtain ⟨⟨found, start, stop⟩, hpeek, hkind⟩ := h.peek
  obtain rfl := Option.some.inj hkind
  refine ⟨start, stop, ?_⟩
  rw [peek, hpeek]
  rfl

theorem peek_of_stands (h : s.tokens.Stands opened (kind :: kinds)) :
    ∃ start stop, s.peek = .ok (⟨kind, start, stop⟩, s) :=
  peek_of_shows (h.shows (by simp))

/-- Whether a node without anchor and tag begins with a token. -/
def startsBare : TokenKind → Bool
  | .alias _ => false
  | .anchor _ => false
  | .tag _ _ => false
  | _ => true

/-- Such a node is read from its first token on. -/
theorem readNode_bare (h : s.tokens.Stands opened (kind :: kinds)) (hbare : startsBare kind = true)
    (block indentless : Bool) :
    ∃ start stop, s.readNode block indentless =
      s.readContent block indentless ⟨none, none, none⟩ none start ⟨kind, start, stop⟩ := by
  obtain ⟨start, stop, hpeek⟩ := peek_of_stands h
  refine ⟨start, stop, ?_⟩
  have hproperties : s.readProperties = .ok (⟨none, none, none⟩, s) := by
    rw [readProperties, hpeek]
    cases kind <;> first | rfl | cases hbare
  have hcontent : (s.readProperties >>= fun p => p.2.peek >>= fun q =>
      q.2.resolveTag (p.1.start.getD start) p.1.tag >>= fun tag =>
        q.2.readContent block indentless p.1 tag (p.1.start.getD start) q.1) =
      s.readContent block indentless ⟨none, none, none⟩ none start ⟨kind, start, stop⟩ := by
    rw [hproperties]
    show (s.peek >>= _) = _
    rw [hpeek]
    rfl
  rw [readNode, hpeek, ← hcontent]
  cases kind <;> first | rfl | cases hbare

theorem readNode_scalar (h : s.tokens.Stands opened (.scalar text style :: kinds))
    (block indentless : Bool) :
    ∃ m, s.readNode block indentless =
      .ok (⟨.scalar none ⟨text, none, style⟩, m⟩, s.back.drop) := by
  obtain ⟨start, stop, hread⟩ := readNode_bare h rfl block indentless
  exact ⟨_, hread⟩

theorem readNode_blockMapping (h : s.tokens.Stands opened (.blockMappingStart :: kinds)) :
    ∃ m, s.readNode true false =
      .ok (⟨.mappingStart none, m⟩, s.expect .blockMappingFirst) := by
  obtain ⟨start, stop, hread⟩ := readNode_bare h rfl true false
  exact ⟨_, hread⟩

/-- A key is read, and its value is expected. -/
theorem readBlockKey_scalar
    (h : s.tokens.Shows true (.key :: .scalar text style :: kinds) t) :
    ∃ m, s.readBlockKey = .ok (⟨.scalar none ⟨text, none, style⟩, m⟩,
      { s with tokens := t.drop.drop, expectation := .blockMappingValue }) := by
  obtain ⟨start, stop, hpeek⟩ := peek_of_shows h
  have hdrop : ({ s with tokens := t } : EventStream).drop.tokens.Stands true
      (.scalar text style :: kinds) := h.stands.drop
  obtain ⟨start', stop', hnext⟩ := peek_of_stands hdrop
  have hlater : (({ s with tokens := t } : EventStream).drop.later .blockMappingValue).tokens.Stands
      true (.scalar text style :: kinds) := hdrop
  obtain ⟨m, hnode⟩ := readNode_scalar hlater true true
  refine ⟨m, ?_⟩
  rw [readBlockKey, hpeek]
  show (({ s with tokens := t } : EventStream).drop.peek >>= _) = _
  rw [hnext]
  exact hnode

/-- A value is read, and the next key is expected. -/
theorem readBlockValue_scalar (h : s.tokens.Stands true [.value])
    (hvalue : s.tokens.drop.Shows true [.scalar text style] t) :
    ∃ m, s.readBlockValue = .ok (⟨.scalar none ⟨text, none, style⟩, m⟩,
      { s with tokens := t.drop, expectation := .blockMappingKey }) := by
  obtain ⟨start, stop, hpeek⟩ := peek_of_stands h
  have hdrop : s.drop.tokens.Shows true [.scalar text style] t := hvalue
  obtain ⟨start', stop', hnext⟩ := peek_of_shows hdrop
  have hlater : (({ s.drop with tokens := t } : EventStream).later .blockMappingKey).tokens.Stands
      true [.scalar text style] := hvalue.stands
  obtain ⟨m, hnode⟩ := readNode_scalar hlater true true
  refine ⟨m, ?_⟩
  rw [readBlockValue, hpeek]
  show (s.drop.peek >>= _) = _
  rw [hnext]
  exact hnode

/-- The mapping ends, and the end of the document is expected. -/
theorem readBlockKey_end (h : s.tokens.Shows opened (.blockEnd :: kinds) t) :
    ∃ m, s.readBlockKey =
      .ok (⟨.mappingEnd, m⟩, ({ s with tokens := t } : EventStream).back.leave.drop) := by
  obtain ⟨start, stop, hpeek⟩ := peek_of_shows h
  refine ⟨start, ?_⟩
  rw [readBlockKey, hpeek]
  rfl

/-- A document begins with its first node, since no mark is needed. -/
theorem readDocumentStart_blockMapping
    (h : s.tokens.Shows opened (.blockMappingStart :: kinds) t) :
    ∃ m, s.readDocumentStart true = .ok (⟨.documentStart, m⟩,
      { s with
        tokens := t
        handles := defaultHandles
        stack := .documentEnd :: s.stack
        expectation := .blockNode }) := by
  obtain ⟨start, stop, hpeek⟩ := peek_of_shows h
  have hstands : ({ s with tokens := t } : EventStream).tokens.Stands opened
      (.blockMappingStart :: kinds) := h.stands
  obtain ⟨start', stop', hagain⟩ := peek_of_stands hstands
  have hdirectives : ({ s with tokens := t } : EventStream).readDirectives 0 false [] =
      .ok { s with tokens := t, handles := defaultHandles } := by
    show (({ s with tokens := t } : EventStream).peek >>= fun p =>
      pure { p.2 with handles := [] ++ defaultHandles }) = _
    rw [hagain]
    rfl
  refine ⟨start, ?_⟩
  rw [readDocumentStart]
  show (s.peek >>= _) = _
  rw [hpeek]
  show (({ s with tokens := t } : EventStream).readDirectives 0 false [] >>= _) = _
  rw [hdirectives]
  rfl

/-- At the end of the text, the document ends and nothing follows. -/
theorem readDocumentEnd_over (h : s.tokens.Stands opened [.streamEnd]) :
    ∃ m, s.readDocumentEnd = .ok (⟨.documentEnd, m⟩,
      { s with handles := [], expectation := .documentStart }) := by
  obtain ⟨start, stop, hpeek⟩ := peek_of_stands h
  refine ⟨start, ?_⟩
  rw [readDocumentEnd, hpeek]
  rfl

theorem readDocumentStart_over (h : s.tokens.Stands opened [.streamEnd]) :
    ∃ m, s.readDocumentStart false = .ok (⟨.streamEnd, m⟩, (s.expect .nothing).drop) := by
  obtain ⟨start, stop, hpeek⟩ := peek_of_stands h
  have hskip (room : Nat) : skipDocumentEnds room s = .ok s := by
    -- The recursion is under a binder, so it has no equation to rewrite with.
    delta skipDocumentEnds
    cases room with
    | zero =>
        show (s.peek >>= _) = _
        rw [hpeek]
        rfl
    | succ room =>
        show (s.peek >>= _) = _
        rw [hpeek]
        rfl
  refine ⟨start, ?_⟩
  rw [readDocumentStart]
  show (skipDocumentEnds s.room s >>= _) = _
  rw [hskip]
  show (s.peek >>= _) = _
  rw [hpeek]
  rfl

end EventStream

/-! ## The document -/

namespace Document

open JobsGateway.Yaml.Entry (textOf nodesOf)

variable {s t : EventStream} {draft : Draft} {m : Mark}

theorem read_scalar {scalar : Scalar} (h : s.next = .ok (⟨.scalar none scalar, m⟩, t))
    (room : Nat) :
    read (room + 1) draft s = read room (draft.add (.scalar scalar) m) t := by
  rw [read, h]
  rfl

/-- The stream inside a mapping before a value, with the rest of its line and the
lines after it still to be read. -/
structure AtValue (s : EventStream) (e : Entry) (ended : Bool) (rest : List Entry) : Prop where
  expectation : s.expectation = .blockMappingValue
  stack : s.stack = [.documentEnd]
  tokens : s.tokens.Stands true [.value]
  rest : s.tokens.cursor.rest =
    ' ' :: (e.value.source ++ (Entry.lineEnd ended rest ++ textOf ended rest))
  keyAllowed : s.tokens.keyAllowed = false

/-- The stream inside a mapping before some lines. -/
structure AtKey (s : EventStream) (ended : Bool) (entries : List Entry) : Prop where
  expectation : s.expectation = .blockMappingKey
  stack : s.stack = [.documentEnd]
  tokens : s.tokens.Stands true []
  line : s.tokens.AtLine (textOf ended entries)

/-- What a read document is: the nodes up to the end of the mapping, and no more. -/
def Completes (result : Document × Option EventStream) (draft : Draft) (nodes : List Node) : Prop :=
  ∃ placed t, result = (⟨draft.nodes.reverse ++ placed, draft.targets, none⟩, some t) ∧
    placed.map PlacedNode.node = nodes ∧ followsMore t = false

variable {e : Entry} {ended : Bool} {rest entries : List Entry}

/-- **A value is read, and the next line comes.** -/
theorem AtValue.next (h : AtValue s e ended rest) :
    ∃ m t, s.next = .ok (⟨.scalar none e.value.scalar, m⟩, t) ∧ AtKey t ended rest := by
  obtain ⟨tokens, hshows, hline⟩ := h.tokens.drop.shows_value e.value.inLine h.keyAllowed h.rest
    (Entry.lineEnd_cases ended rest) (Entry.startsToken_textOf ended rest)
  obtain ⟨m, hread⟩ := EventStream.readBlockValue_scalar h.tokens hshows
  rw [EventStream.next, h.expectation]
  exact ⟨m, _, hread, ⟨rfl, h.stack, hshows.stands.drop, hline.drop⟩⟩

/-- What comes before the value of a key that has been read. -/
theorem atValue_of_shows {tokens : TokenStream} (hstack : s.stack = [.documentEnd])
    (hshows : s.tokens.Shows true [.key, .scalar e.key.text e.key.style, .value] tokens)
    (hrest : tokens.cursor.rest =
      ' ' :: (e.value.source ++ (Entry.lineEnd ended rest ++ textOf ended rest)))
    (hallowed : tokens.keyAllowed = false) :
    ∃ m t, s.readBlockKey = .ok (⟨.scalar none e.key.scalar, m⟩, t) ∧ AtValue t e ended rest := by
  obtain ⟨m, hread⟩ := EventStream.readBlockKey_scalar hshows
  exact ⟨m, _, hread, ⟨rfl, hstack, hshows.stands.drop.drop, hrest, hallowed⟩⟩

/-- **A key is read, and its value comes.** -/
theorem AtKey.next_key (h : AtKey s ended (e :: rest)) :
    ∃ m t, s.next = .ok (⟨.scalar none e.key.scalar, m⟩, t) ∧ AtValue t e ended rest := by
  have hline := h.line
  rw [Entry.textOf_cons] at hline
  obtain ⟨tokens, hshows, hrest, -, hallowed⟩ :=
    h.tokens.shows_key e.key.inLine e.key.short e.key.unmarked hline (by rfl)
  rw [EventStream.next, h.expectation]
  exact atValue_of_shows h.stack hshows hrest hallowed

/-- **The mapping ends, and the end of the document comes.** -/
theorem AtKey.next_end (h : AtKey s ended []) :
    ∃ m t, s.next = .ok (⟨.mappingEnd, m⟩, t) ∧ t.expectation = .documentEnd ∧
      t.tokens.Stands false [.streamEnd] := by
  obtain ⟨tokens, hshows⟩ := h.tokens.shows_end h.line
  obtain ⟨m, hread⟩ := EventStream.readBlockKey_end hshows
  have hback : ({ s with tokens := tokens } : EventStream).back =
      { s with tokens := tokens, expectation := .documentEnd, stack := [] } := by
    simp only [EventStream.back, h.stack]
  rw [hback] at hread
  rw [EventStream.next, h.expectation]
  exact ⟨m, _, hread, rfl, hshows.stands.drop⟩

/-- The document ends, and nothing follows. -/
theorem next_documentEnd (hexpectation : s.expectation = .documentEnd)
    (h : s.tokens.Stands false [.streamEnd]) :
    ∃ m t, s.next = .ok (⟨.documentEnd, m⟩, t) ∧ followsMore t = false := by
  obtain ⟨m, hend⟩ := EventStream.readDocumentEnd_over h
  rw [EventStream.next, hexpectation]
  refine ⟨m, _, hend, ?_⟩
  obtain ⟨m', hover⟩ := EventStream.readDocumentStart_over (s :=
    { s with handles := [], expectation := .documentStart }) h
  have hnext : EventStream.next { s with handles := [], expectation := .documentStart } = _ :=
    hover
  rw [followsMore, hnext]
  rfl

/-- **The lines of a mapping are read to their end**, each as its key and its value. -/
theorem read_entries (h : AtKey s ended entries) {room : Nat}
    (hroom : 2 * entries.length + 2 ≤ room) : Completes (read room draft s) draft
      (nodesOf entries) := by
  induction entries generalizing s draft room with
  | nil =>
      obtain ⟨room, rfl⟩ : ∃ k, room = k + 2 := ⟨room - 2, by simp at hroom; omega⟩
      obtain ⟨m, t, hnext, hexpectation, hstands⟩ := h.next_end
      obtain ⟨m', u, hend, hover⟩ := next_documentEnd hexpectation hstands
      refine ⟨[⟨.mappingEnd, m⟩], u, ?_, rfl, hover⟩
      rw [read, hnext]
      show read (room + 1) (draft.add .mappingEnd m) t = _
      rw [read, hend]
      simp [Draft.add, Draft.finish]
  | cons e rest ih =>
      obtain ⟨room, rfl⟩ : ∃ k, room = k + 2 := ⟨room - 2, by simp at hroom; omega⟩
      obtain ⟨m, t, hkey, hvalue⟩ := h.next_key
      obtain ⟨m', u, hnext, hrest⟩ := hvalue.next
      rw [read_scalar hkey, read_scalar hnext]
      obtain ⟨placed, last, hread, hnodes, hover⟩ := ih hrest (by simp at hroom; omega)
      refine ⟨⟨.scalar e.key.scalar, m⟩ :: ⟨.scalar e.value.scalar, m'⟩ :: placed, last, ?_, ?_,
        hover⟩
      · rw [hread]
        simp [Draft.add]
      · simp [nodesOf, hnodes]

/-! ### The beginning -/

theorem next_streamStart (text : Text) :
    ∃ m t, (EventStream.ofText text).next = .ok (⟨.streamStart, m⟩, t) ∧
      t.expectation = .implicitDocumentStart ∧ t.stack = [] ∧ t.tokens.Stands false [] ∧
      t.tokens.AtLine text := by
  obtain ⟨tokens, hshows, hcursor, hallowed⟩ := TokenStream.shows_start text
  obtain ⟨start, stop, hpeek⟩ := EventStream.peek_of_shows (s := EventStream.ofText text) hshows
  have hnext : (EventStream.ofText text).next = .ok (⟨.streamStart, start⟩,
      { EventStream.ofText text with
        tokens := tokens.drop, expectation := .implicitDocumentStart }) := by
    rw [EventStream.next]
    show ((EventStream.ofText text).peek >>= _) = _
    rw [hpeek]
    rfl
  have hline : tokens.AtLine text :=
    .behind (by rw [hcursor]) (by rw [TokenStream.mark, hcursor]; rfl) hallowed
  exact ⟨_, _, hnext, rfl, rfl, hshows.stands.drop, hline.drop⟩

/-- The mapping is entered with its first key. -/
theorem openCollection_eq {kinds : List TokenKind} {opened : Bool}
    (h : s.tokens.Stands opened (.blockMappingStart :: kinds)) :
    ∃ m, s.openCollection = .ok (s.enter m).drop := by
  obtain ⟨start, stop, hpeek⟩ := EventStream.peek_of_stands h
  refine ⟨start, ?_⟩
  rw [EventStream.openCollection, hpeek]
  rfl

/-- The stream before a mapping whose first key has been found. -/
structure AtMapping (s : EventStream) (e : Entry) (ended : Bool) (rest : List Entry) : Prop where
  expectation : s.expectation = .blockNode
  stack : s.stack = [.documentEnd]
  tokens : s.tokens.Stands true
    [.blockMappingStart, .key, .scalar e.key.text e.key.style, .value]
  rest : s.tokens.cursor.rest =
    ' ' :: (e.value.source ++ (Entry.lineEnd ended rest ++ textOf ended rest))
  keyAllowed : s.tokens.keyAllowed = false

/-- **The document opens when the first key has been found.** -/
theorem next_documentStart (hexpectation : s.expectation = .implicitDocumentStart)
    (hstack : s.stack = []) (h : s.tokens.Stands false [])
    (hline : s.tokens.AtLine (textOf ended (e :: rest))) :
    ∃ m t, s.next = .ok (⟨.documentStart, m⟩, t) ∧ AtMapping t e ended rest := by
  rw [Entry.textOf_cons] at hline
  obtain ⟨tokens, hshows, hrest, -, hallowed⟩ :=
    h.shows_key e.key.inLine e.key.short e.key.unmarked hline (by rfl)
  obtain ⟨m, hread⟩ := EventStream.readDocumentStart_blockMapping hshows
  rw [EventStream.next, hexpectation]
  exact ⟨m, _, hread, ⟨rfl, congrArg _ hstack, hshows.stands, hrest, hallowed⟩⟩

/-- **The mapping opens, and its first key is read.** -/
theorem AtMapping.next (h : AtMapping s e ended rest) :
    ∃ m t m' u, s.next = .ok (⟨.mappingStart none, m⟩, t) ∧
      t.next = .ok (⟨.scalar none e.key.scalar, m'⟩, u) ∧ AtValue u e ended rest := by
  obtain ⟨m, hmapping⟩ := EventStream.readNode_blockMapping h.tokens
  obtain ⟨m', hopen⟩ := openCollection_eq (s := s.expect .blockMappingFirst) h.tokens
  have hshows : ((s.expect .blockMappingFirst).enter m').drop.tokens.Shows true
      [.key, .scalar e.key.text e.key.style, .value] s.tokens.drop :=
    h.tokens.drop.shows (by simp)
  have hrest : s.tokens.drop.cursor.rest =
      ' ' :: (e.value.source ++ (Entry.lineEnd ended rest ++ textOf ended rest)) := h.rest
  obtain ⟨m₃, u, hkey, hvalue⟩ := atValue_of_shows
    (s := ((s.expect .blockMappingFirst).enter m').drop) h.stack hshows hrest h.keyAllowed
  refine ⟨m, s.expect .blockMappingFirst, m₃, u, ?_, ?_, hvalue⟩
  · rw [EventStream.next, h.expectation]
    exact hmapping
  · show (s.expect .blockMappingFirst).openCollection.bind EventStream.readBlockKey = _
    rw [hopen]
    exact hkey

/-! ### The whole -/

theorem allowed_textOf (ended : Bool) (entries : List Entry) :
    ∀ c ∈ textOf ended entries, isAllowed c = true := by
  induction entries with
  | nil => rintro c ⟨⟩
  | cons e rest ih =>
      intro c hc
      rw [Entry.textOf_cons] at hc
      simp only [List.mem_append, List.mem_cons] at hc
      rcases hc with hc | rfl | rfl | hc | hc | hc
      · exact e.key.allowed c hc
      · decide
      · decide
      · exact e.value.allowed c hc
      · rcases Entry.lineEnd_cases ended rest with hend | ⟨hend, -⟩
        · rw [hend, List.mem_singleton] at hc
          rw [hc]
          decide
        · rw [hend] at hc
          cases hc
      · exact ih c hc

theorem length_le_textOf (ended : Bool) (entries : List Entry) :
    entries.length ≤ (textOf ended entries).length := by
  induction entries with
  | nil => exact Nat.le_refl 0
  | cons e rest ih =>
      rw [Entry.textOf_cons]
      simp only [List.length_append, List.length_cons]
      omega

/-- A text that begins with no byte order mark is read as it is. -/
theorem ofText_eq {text : Text} (hallowed : text.all isAllowed = true)
    (hmark : text.head? ≠ some '\ufeff') :
    ofText text =
      ((read (20 * (text.length + 5)) .empty (.ofText text)).1,
        (read (20 * (text.length + 5)) .empty (.ofText text)).2.any followsMore) := by
  unfold ofText
  rw [if_pos hallowed]
  split
  · exact absurd rfl hmark
  · rfl

/-- **A text of lines is one document, with the nodes of a mapping.** -/
theorem ofText_textOf (ended : Bool) {entries : List Entry} (hne : entries ≠ []) :
    ∃ nodes, ofText (textOf ended entries) = (⟨nodes, [], none⟩, false) ∧
      nodes.map PlacedNode.node = .mappingStart :: nodesOf entries := by
  obtain ⟨e, rest, rfl⟩ := List.exists_cons_of_ne_nil hne
  generalize htext : textOf ended (e :: rest) = text
  have hstart : StartsToken text := htext ▸ Entry.startsToken_textOf ended (e :: rest)
  have hroom : ∃ room, 20 * (text.length + 5) = room + 5 ∧ 2 * rest.length + 2 ≤ room := by
    have hlength := length_le_textOf ended (e :: rest)
    rw [htext, List.length_cons] at hlength
    exact ⟨20 * (text.length + 5) - 5, by omega, by omega⟩
  obtain ⟨room, hroom, hrest⟩ := hroom
  obtain ⟨m₁, s₁, h₁, hexpectation, hstack, hstands, hline⟩ := next_streamStart text
  obtain ⟨m₂, s₂, h₂, hmapping⟩ :=
    next_documentStart hexpectation hstack hstands (htext ▸ hline)
  obtain ⟨m₃, s₃, m₄, s₄, h₃, h₄, hvalue⟩ := hmapping.next
  obtain ⟨m₅, s₅, h₅, hkey⟩ := hvalue.next
  have hread : read (room + 5) .empty (.ofText text) =
      read room (((Draft.empty.add .mappingStart m₃).add (.scalar e.key.scalar) m₄).add
        (.scalar e.value.scalar) m₅) s₅ := by
    rw [read, h₁]
    show read (room + 4) .empty s₁ = _
    rw [read, h₂]
    show read (room + 3) .empty s₂ = _
    rw [read, h₃]
    show read (room + 2) (Draft.empty.add .mappingStart m₃) s₃ = _
    rw [read_scalar h₄, read_scalar h₅]
  obtain ⟨placed, last, hlast, hnodes, hover⟩ : Completes (read room (((Draft.empty.add
      .mappingStart m₃).add (.scalar e.key.scalar) m₄).add (.scalar e.value.scalar) m₅) s₅) _ _ :=
    read_entries hkey hrest
  refine ⟨⟨.mappingStart, m₃⟩ :: ⟨.scalar e.key.scalar, m₄⟩ :: ⟨.scalar e.value.scalar, m₅⟩ ::
    placed, ?_, by simp [nodesOf, hnodes]⟩
  have hallowed : text.all isAllowed = true :=
    List.all_eq_true.mpr (htext ▸ allowed_textOf ended (e :: rest))
  rw [ofText_eq hallowed fun hmark => (hstart _ hmark).2.2.2 rfl, hroom, hread, hlast]
  simp [Draft.add, Draft.empty, hover]

end Document

end JobsGateway.Yaml
