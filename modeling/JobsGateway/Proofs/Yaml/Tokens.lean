import JobsGateway.Proofs.Outcome
import JobsGateway.Proofs.Yaml.Scalar

/-!
# The tokens of a line

Lines that are a key, a colon and a value make a mapping in the first column. The
key is known as one when its colon is reached, and then the marks for it, and for
the mapping if it is the first line, are put before it. The value is found behind
the colon. A line ends with its value, and the mapping with the text.
-/

namespace JobsGateway.Yaml

/-- A text in which the next token begins at once, if there is one. -/
def StartsToken (rest : Text) : Prop :=
  ∀ c, rest.head? = some c → isBlank c = false ∧ isBreak c = false ∧ c ≠ '#' ∧ c ≠ '\ufeff'

/-! ## Where tokens begin -/

theorem skipWhile_self {c : Cursor} {p : Char → Bool}
    (h : ∀ ch, c.rest.head? = some ch → p ch = false) : c.skipWhile p = c := by
  have hsplit : c.rest.takeWhile p = [] ∧ c.rest.dropWhile p = c.rest := by
    cases hrest : c.rest with
    | nil => exact ⟨rfl, rfl⟩
    | cons ch rest =>
        have hch : ¬ p ch = true := by simp [h ch (by rw [hrest]; rfl)]
        exact ⟨List.takeWhile_cons_of_neg hch, List.dropWhile_cons_of_neg hch⟩
  rw [Cursor.skipWhile, Cursor.takeWhile, hsplit.1, hsplit.2]
  rfl

theorem skipWhile_cons {c : Cursor} {p : Char → Bool} {ch : Char} {rest : Text}
    (hcursor : c.rest = ch :: rest) (hch : p ch = true) :
    c.skipWhile p = Cursor.skipWhile p ⟨rest, c.mark.after 1⟩ := by
  simp only [Cursor.skipWhile, Cursor.takeWhile, hcursor, List.takeWhile_cons_of_pos hch,
    List.dropWhile_cons_of_pos hch, List.length_cons, Mark.after]
  rw [Nat.add_right_comm, Nat.add_right_comm c.mark.column, Nat.add_assoc, Nat.add_assoc]

theorem StartsToken.skipComment {c : Cursor} (h : StartsToken c.rest) : c.skipComment = c :=
  if_neg fun hpeek => (h '#' hpeek).2.2.1 rfl

theorem StartsToken.notBreak {c : Cursor} (h : StartsToken c.rest) :
    c.peek.any isBreak = false := by
  cases hpeek : c.peek with
  | none => rfl
  | some ch => exact (h ch hpeek).2.1

theorem InLine.startsToken {ends : Bool} {source text : Text} {style : Style}
    (h : InLine ends source style text) (rest : Text) : StartsToken (source ++ rest) := by
  intro c hc
  cases h with
  | plain hline =>
      cases source with
      | nil => cases hline
      | cons d more =>
          obtain rfl : d = c := Option.some.inj hc
          exact Plain.visible_of_isLine hline
  | @quoted double =>
      obtain rfl : Quoted.quoteOf double = c := Option.some.inj hc
      cases double <;> decide

theorem InLine.exists_cons {ends : Bool} {source text : Text} {style : Style}
    (h : InLine ends source style text) : ∃ c more, source = c :: more := by
  cases h with
  | plain hline =>
      refine List.exists_cons_of_ne_nil ?_
      rintro rfl
      cases hline
  | quoted => exact ⟨_, _, rfl⟩

/-- A mark between documents is decided by three characters and whether a blank
comes next. -/
theorem startsDocumentMark_cons (a b c : Char) (rest : Text) :
    startsDocumentMark (a :: b :: c :: rest) =
      ((a = '-' ∧ b = '-' ∧ c = '-' ∨ a = '.' ∧ b = '.' ∧ c = '.') && isBlankOrEnd rest.head?) := by
  unfold startsDocumentMark
  split
  · rename_i heq
    cases heq
    simp
  · rename_i heq
    cases heq
    simp
  · rename_i hdash hdot
    have hnone : ¬ (a = '-' ∧ b = '-' ∧ c = '-' ∨ a = '.' ∧ b = '.' ∧ c = '.') := by
      rintro (⟨rfl, rfl, rfl⟩ | ⟨rfl, rfl, rfl⟩)
      · exact hdash rest rfl
      · exact hdot rest rfl
    simp [hnone]

/-- Behind a colon, nothing decides any more whether a text starts with a mark
between documents. -/
theorem startsDocumentMark_colon (source rest : Text) :
    startsDocumentMark (source ++ ':' :: rest) = startsDocumentMark (source ++ [':']) := by
  match source with
  | [] => rfl
  | [a] => simp [startsDocumentMark]
  | [a, b] => simp [startsDocumentMark]
  | [a, b, c] => simp [startsDocumentMark_cons]
  | a :: b :: c :: d :: more => simp [startsDocumentMark_cons]

namespace TokenStream

variable {s t : TokenStream} {opened : Bool} {kinds : List TokenKind} {rest : Text}

/-! ## Streams without a key to be decided -/

/-- A stream in a mapping in the first column, or before it, with these tokens in
the queue. No bracket is open, and no key is waiting for its colon. -/
structure Stands (s : TokenStream) (opened : Bool) (kinds : List TokenKind) : Prop where
  started : s.started = true
  places : s.keyPlaces = [none]
  indent : s.indent = if opened then 0 else -1
  indents : s.indents = if opened then [-1] else []
  queue : s.queue.map Token.kind = kinds

theorem Stands.inFlow (h : s.Stands opened kinds) : s.inFlow = false := by
  rw [TokenStream.inFlow, h.places]
  rfl

/-- Nothing is given up while all places for keys are fresh. -/
theorem dropStale_of_fresh {place : Option KeyPlace} (hplaces : s.keyPlaces = [place])
    (hfresh : s.keepFresh place = .ok place) : s.dropStale = .ok s := by
  unfold dropStale
  rw [hplaces, List.reverse_singleton, List.mapM_cons, hfresh]
  show Except.ok { s with keyPlaces := [place] } = .ok s
  rw [← hplaces]

theorem Stands.dropStale (h : s.Stands opened kinds) : s.dropStale = .ok s :=
  dropStale_of_fresh h.places rfl

theorem Stands.isUndecided (h : s.Stands opened kinds) : s.isUndecided = false := by
  rw [TokenStream.isUndecided, h.places]
  rfl

/-- With tokens in the queue, such a stream is settled. -/
theorem Stands.settle (h : s.Stands opened kinds) (hkinds : kinds ≠ []) (room : Nat) :
    settle (room + 1) s = .ok s := by
  have hqueue : s.queue ≠ [] := by
    intro hnone
    exact hkinds (by rw [← h.queue, hnone]; rfl)
  rw [TokenStream.settle, if_neg hqueue, h.dropStale]
  show (if s.isUndecided = true then _ else _) = _
  rw [h.isUndecided]
  rfl

/-- The next token is certain, and with it these are in the queue. -/
structure Shows (s : TokenStream) (opened : Bool) (kinds : List TokenKind) (t : TokenStream) :
    Prop where
  peek : ∃ token, s.peek = .ok (token, t) ∧ kinds.head? = some token.kind
  stands : t.Stands opened kinds

theorem shows_of_settle (hsettle : settle (s.cursor.rest.length + 3) s = .ok t)
    (h : t.Stands opened kinds) (hkinds : kinds ≠ []) : s.Shows opened kinds t := by
  obtain ⟨kind, more, rfl⟩ := List.exists_cons_of_ne_nil hkinds
  obtain ⟨token, others, hqueue, hkind, -⟩ := List.map_eq_cons_iff.mp h.queue
  refine ⟨⟨token, ?_, by rw [hkind]; rfl⟩, h⟩
  rw [TokenStream.peek, hsettle]
  simp only [bind, Except.bind, hqueue]
  rfl

theorem Stands.shows (h : s.Stands opened kinds) (hkinds : kinds ≠ []) :
    s.Shows opened kinds s :=
  shows_of_settle (h.settle hkinds _) h hkinds

theorem Stands.drop {kind : TokenKind} (h : s.Stands opened (kind :: kinds)) :
    s.drop.Stands opened kinds where
  started := h.started
  places := h.places
  indent := h.indent
  indents := h.indents
  queue := by
    show (s.queue.drop 1).map Token.kind = kinds
    rw [List.map_drop, h.queue]
    rfl

/-- No column closes a mapping in the first one. -/
theorem Stands.unroll (h : s.Stands opened kinds) (column : Nat) : s.unroll column = s := by
  rw [TokenStream.unroll, h.inFlow, if_neg (by simp), h.indents]
  cases opened with
  | false => rfl
  | true =>
      have hindent : ¬ (column : Int) < s.indent := by
        rw [h.indent]
        simp
      show (if (column : Int) < s.indent then _ else s) = s
      rw [if_neg hindent]

/-! ## Blanks and breaks -/

/-- The blanks that are passed over before a token. -/
def isPassedOver (s : TokenStream) (c : Char) : Bool :=
  c == ' ' || (c == '\t' && (s.inFlow || !s.keyAllowed))

theorem isPassedOver_of_not_blank {c : Char} (h : isBlank c = false) :
    s.isPassedOver c = false := by
  rw [isBlank, Bool.or_eq_false_iff] at h
  simp [isPassedOver, h.1, h.2]

/-- What is done behind the blanks and a comment. -/
theorem skipToToken_eq (hmark : s.cursor.peek ≠ some '\ufeff') {c : Cursor}
    (hskip : (s.cursor.skipWhile s.isPassedOver).skipComment = c) (room : Nat) :
    skipToToken room s =
      match room with
      | 0 => { s with cursor := c }
      | room + 1 =>
        if c.peek.any isBreak then
          skipToToken room
            { s with cursor := c.skipBreak, keyAllowed := s.keyAllowed || !s.inFlow }
        else { s with cursor := c } := by
  subst hskip
  rw [skipToToken.eq_def, if_neg (by simp [hmark])]
  cases room <;> rfl

/-- Blanks before a token in the same line are passed over. -/
theorem skipToToken_of_token {c : Cursor} (hmark : s.cursor.peek ≠ some '\ufeff')
    (hskip : s.cursor.skipWhile s.isPassedOver = c) (hrest : StartsToken c.rest) (room : Nat) :
    skipToToken room s = { s with cursor := c } := by
  have hskip' : (s.cursor.skipWhile s.isPassedOver).skipComment = c := by
    rw [hskip, hrest.skipComment]
  rw [skipToToken_eq hmark hskip']
  cases room with
  | zero => rfl
  | succ room => simp [hrest.notBreak]

/-- Nothing is passed over where a token begins. -/
theorem skipToToken_self (hrest : StartsToken s.cursor.rest) (room : Nat) :
    skipToToken room s = s :=
  skipToToken_of_token (fun hpeek => (hrest _ hpeek).2.2.2 rfl)
    (skipWhile_self fun ch hch => isPassedOver_of_not_blank (hrest ch hch).1) hrest room

theorem skipToToken_blank (hcursor : s.cursor.rest = ' ' :: rest) (hrest : StartsToken rest)
    (room : Nat) :
    skipToToken room s = { s with cursor := ⟨rest, s.mark.after 1⟩ } := by
  have hpeek : s.cursor.peek = some ' ' := by
    rw [Cursor.peek, hcursor]
    rfl
  refine skipToToken_of_token (by rw [hpeek]; decide) ?_ hrest room
  rw [skipWhile_cons hcursor (by rfl)]
  exact skipWhile_self fun ch hch => isPassedOver_of_not_blank (hrest ch hch).1

/-- A line ends, and a key may begin in the next one. -/
theorem skipToToken_break (hflow : s.inFlow = false) (hcursor : s.cursor.rest = '\n' :: rest)
    (hrest : StartsToken rest) (room : Nat) :
    skipToToken (room + 1) s =
      { s with cursor := ⟨rest, s.mark.nextLine 1⟩, keyAllowed := true } := by
  have hpeek : s.cursor.peek = some '\n' := by
    rw [Cursor.peek, hcursor]
    rfl
  have hblank : isBlank '\n' = false ∧ isBreak '\n' = true := by decide
  have hskip : (s.cursor.skipWhile s.isPassedOver).skipComment = s.cursor := by
    rw [skipWhile_self fun ch hch => ?_, Cursor.skipComment, hpeek, if_neg (by decide)]
    rw [Cursor.peek, hch] at hpeek
    obtain rfl := Option.some.inj hpeek
    exact isPassedOver_of_not_blank hblank.1
  rw [skipToToken_eq (by rw [hpeek]; decide) hskip]
  simp only [hpeek, Option.any_some, hblank.2, if_true, hflow, Bool.not_false, Bool.or_true]
  have hnext : s.cursor.skipBreak = ⟨rest, s.mark.nextLine 1⟩ := by
    rw [Cursor.skipBreak, hcursor]
    simp [hblank.2, mark]
  rw [hnext, skipToToken_self hrest]

/-! ## Scalars -/

theorem fetchAt_plain {ends : Bool} {c : Char} {more : Text} (hflow : s.inFlow = false)
    (hmark : s.mark.column = 0 → startsDocumentMark s.cursor.rest = false)
    (hline : Plain.isLine ends (c :: more) = true) (hcursor : s.cursor.rest = c :: more ++ rest)
    (hrest : isBlankOrEnd rest.head? = ends) : s.fetchAt c = s.fetchPlain := by
  have hnext : s.cursor.peekAt 1 = (more ++ rest).head? := by
    rw [Cursor.peekAt, hcursor]
    simp [List.head?_eq_getElem?]
  have hdocument : (decide (s.mark.column = 0) && startsDocumentMark s.cursor.rest) = false := by
    simpa using hmark
  obtain ⟨hbegins, hgoes⟩ := Bool.and_eq_true_iff.mp hline
  rw [Plain.begins, Plain.endsWord_eq hrest] at hbegins
  unfold fetchAt
  simp only [hnext, hdocument, hflow]
  generalize (more ++ rest).head? = next at hbegins
  split at hbegins
  · rename_i hmarks
    rw [Bool.not_eq_true'] at hbegins
    simp only [Bool.or_eq_true, beq_iff_eq] at hmarks
    have hblank : next.any isBlank = false := by
      cases next with
      | none => rfl
      | some d => exact (Bool.or_eq_false_iff.mp hbegins).1
    rcases hmarks with (rfl | rfl) | rfl <;> simp [hbegins, hblank, startsPlain]
  · rename_i hmarks
    obtain ⟨hblank, hbreak, -⟩ := Plain.visible_of_isLine hline
    have hlist := (Bool.and_eq_true_iff.mp hbegins).2
    simp at hlist hmarks
    simp [startsPlain, hblank, hbreak, hlist, hmarks]

theorem fetchAt_quote (hmark : s.mark.column = 0 → startsDocumentMark s.cursor.rest = false)
    (double : Bool) : s.fetchAt (Quoted.quoteOf double) = s.fetchQuoted double := by
  have hdocument : (decide (s.mark.column = 0) && startsDocumentMark s.cursor.rest) = false := by
    simpa using hmark
  unfold fetchAt
  simp only [hdocument]
  cases double <;> simp [Quoted.quoteOf]

/-- A colon before a blank is the mark of a value. -/
theorem fetchAt_colon (hflow : s.inFlow = false) (hcolumn : s.mark.column ≠ 0)
    (hcursor : s.cursor.rest = ':' :: rest) (hrest : isBlankOrEnd rest.head? = true) :
    s.fetchAt ':' = s.fetchValue := by
  have hnext : s.cursor.peekAt 1 = rest.head? := by
    rw [Cursor.peekAt, hcursor]
    simp [List.head?_eq_getElem?]
  unfold fetchAt
  simp [hnext, hcolumn, hflow, hrest]

/-- The stream behind a scalar. -/
def behind (s : TokenStream) (places : List (Option KeyPlace)) (kind : TokenKind) (stop : Mark)
    (rest : Text) (allowed : Bool) : TokenStream :=
  { s with
    cursor := ⟨rest, stop⟩
    queue := s.queue ++ [⟨kind, s.mark, stop⟩]
    keyAllowed := allowed
    keyPlaces := places }

theorem fetchPlain_eq {places : List (Option KeyPlace)} (hplaces : places.length = 1)
    (hsave : s.saveKey = .ok { s with keyPlaces := places }) {state : Plain.State}
    (hscan : Plain.scan ⟨false, s.indent + 1, s.mark⟩ ⟨[], .none, s.mark⟩ s.cursor.rest =
      .ok (state, rest)) :
    s.fetchPlain =
      .ok (s.behind places (.scalar state.out.reverse .plain) state.mark rest
        state.gap.broken) := by
  have hflow : ({ s with keyPlaces := places } : TokenStream).inFlow = false := by
    simp [inFlow, hplaces]
  refine Outcome.bind_eq_ok_iff.mpr ⟨_, hsave, Outcome.bind_eq_ok_iff.mpr ⟨(state, rest), ?_, rfl⟩⟩
  rw [hflow]
  exact hscan

theorem fetchQuoted_eq {places : List (Option KeyPlace)}
    (hsave : s.saveKey = .ok { s with keyPlaces := places }) {double : Bool} {source text : Text}
    (hinner : Quoted.Inner double source text)
    (hcursor : s.cursor.rest =
      Quoted.quoteOf double :: source ++ [Quoted.quoteOf double] ++ rest)
    (hrest : rest.head? ≠ some '\'') :
    s.fetchQuoted double =
      .ok (s.behind places (.scalar text (Quoted.styleOf double))
        (s.mark.after (source.length + 2)) rest false) := by
  have hread : Quoted.State.HasRead ⟨[], .none, s.mark.next⟩ [] (s.mark.after 1) :=
    ⟨rfl, rfl, rfl, Nat.succ_ne_zero s.mark.column⟩
  have hscan : Quoted.scan double s.mark ⟨[], .none, s.mark.next⟩ s.cursor.skip.rest =
      .ok (text, ⟨rest, s.mark.after (source.length + 2)⟩) := by
    have hinside : Quoted.scan double s.mark ⟨[], .none, s.mark.next⟩ _ = _ :=
      Quoted.scan_inner hinner hread hrest
    rw [Mark.after_after, List.nil_append, Nat.add_comm 1] at hinside
    rw [Cursor.skip, hcursor]
    simpa using hinside
  refine Outcome.bind_eq_ok_iff.mpr ⟨_, hsave, Outcome.bind_eq_ok_iff.mpr
    ⟨(.scalar text (Quoted.styleOf double), ⟨rest, s.mark.after (source.length + 2)⟩), ?_, rfl⟩⟩
  refine Outcome.map_eq_ok_iff.mpr ⟨_, hscan, ?_⟩
  cases double <;> rfl

/-- **A key is read up to its colon.** -/
theorem fetchAt_key {source text : Text} {style : Style} (hline : InLine false source style text)
    {place : Option KeyPlace} (hflow : s.inFlow = false) (hindent : s.indent ≤ 0)
    (hmark : s.mark.column = 0 → startsDocumentMark s.cursor.rest = false)
    (hsave : s.saveKey = .ok { s with keyPlaces := [place] })
    (hcursor : s.cursor.rest = source ++ ':' :: rest) (hrest : isBlankOrEnd rest.head? = true) :
    ∃ c, s.cursor.peek = some c ∧
      s.fetchAt c = .ok (s.behind [place] (.scalar text style) (s.mark.after source.length)
        (':' :: rest) false) := by
  have hcolon : isBlankOrEnd (':' :: rest).head? = false := rfl
  obtain ⟨c, more, rfl⟩ := hline.exists_cons
  cases hline with
  | plain hline =>
      refine ⟨c, by rw [Cursor.peek, hcursor]; rfl, ?_⟩
      have hscan : Plain.scan ⟨false, s.indent + 1, s.mark⟩ ⟨[], .none, s.mark⟩ s.cursor.rest =
          .ok (⟨(c :: more).reverse, .none, s.mark.after (c :: more).length⟩, ':' :: rest) := by
        have hindented : s.indent + 1 ≤ 1 := by omega
        rw [hcursor, Plain.scan_line rfl hindented hcolon hline, Plain.scan_colon rfl _ _ hrest]
      rw [fetchAt_plain hflow hmark hline hcursor hcolon, fetchPlain_eq rfl hsave hscan]
      simp [Gap.none]
  | @quoted double source text hinner =>
      refine ⟨Quoted.quoteOf double, by rw [Cursor.peek, hcursor]; rfl, ?_⟩
      rw [fetchAt_quote hmark, fetchQuoted_eq hsave hinner hcursor (by simp)]
      simp

/-- The stream has come to the end of a line, and this is what comes from the next
line on. A plain scalar has passed over the line break, and a quoted one has not. -/
inductive AtLine (s : TokenStream) (next : Text) : Prop where
  | before : s.cursor.rest = '\n' :: next → AtLine s next
  | behind : s.cursor.rest = next → s.mark.column = 0 → s.keyAllowed = true → AtLine s next
  | atEnd : s.cursor.rest = [] → next = [] → AtLine s next

theorem AtLine.drop {next : Text} (h : s.AtLine next) : s.drop.AtLine next := by
  cases h with
  | before hcursor => exact .before hcursor
  | behind hcursor hcolumn hallowed => exact .behind hcursor hcolumn hallowed
  | atEnd hcursor hnext => exact .atEnd hcursor hnext

/-- **A value is read to the end of its line.** -/
theorem fetchAt_value {source text : Text} {style : Style} (hline : InLine true source style text)
    {tail next : Text} (hflow : s.inFlow = false) (hindent : s.indent = 0)
    (hcolumn : s.mark.column ≠ 0) (hsave : s.saveKey = .ok { s with keyPlaces := [none] })
    (hcursor : s.cursor.rest = source ++ (tail ++ next))
    (htail : tail = ['\n'] ∨ tail = [] ∧ next = []) (hnext : StartsToken next) :
    ∃ c stop after allowed, s.cursor.peek = some c ∧
      s.fetchAt c = .ok (s.behind [none] (.scalar text style) stop after allowed) ∧
      AtLine (s.behind [none] (.scalar text style) stop after allowed) next := by
  have hmark : s.mark.column = 0 → startsDocumentMark s.cursor.rest = false :=
    fun h => absurd h hcolumn
  have hends : isBlankOrEnd (tail ++ next).head? = true := by
    rcases htail with rfl | ⟨rfl, rfl⟩ <;> rfl
  obtain ⟨c, more, rfl⟩ := hline.exists_cons
  cases hline with
  | plain hline =>
      have hpeek : s.cursor.peek = some c := by
        rw [Cursor.peek, hcursor]
        rfl
      have hscan (state : Plain.State) (after : Text)
          (hafter : Plain.scan ⟨false, s.indent + 1, s.mark⟩
            ⟨(c :: more).reverse, .none, s.mark.after (c :: more).length⟩ (tail ++ next) =
              .ok (state, after)) :
          s.fetchAt c = .ok (s.behind [none] (.scalar state.out.reverse .plain) state.mark after
            state.gap.broken) := by
        rw [fetchAt_plain hflow hmark hline hcursor hends]
        refine fetchPlain_eq rfl hsave ?_
        have hindented : s.indent + 1 ≤ 1 := by omega
        rw [hcursor, Plain.scan_line rfl hindented hends hline, hafter]
      rcases htail with rfl | ⟨rfl, rfl⟩
      · have hbreak := hscan _ _ (Plain.scan_break rfl (by simp [hindent]) _ _
          fun c hc => ⟨(hnext c hc).1, (hnext c hc).2.1⟩)
        rw [List.reverse_reverse] at hbreak
        exact ⟨c, _, _, _, hpeek, hbreak, .behind rfl rfl rfl⟩
      · have hover := hscan _ _ rfl
        rw [List.reverse_reverse] at hover
        exact ⟨c, _, _, _, hpeek, hover, .atEnd rfl rfl⟩
  | @quoted double source text hinner =>
      have hquote : (tail ++ next).head? ≠ some '\'' := by
        rcases htail with rfl | ⟨rfl, rfl⟩ <;> simp
      refine ⟨Quoted.quoteOf double, _, _, _, by rw [Cursor.peek, hcursor]; rfl,
        (fetchAt_quote hmark double).trans (fetchQuoted_eq hsave hinner hcursor hquote), ?_⟩
      rcases htail with rfl | ⟨rfl, rfl⟩
      · exact .before rfl
      · exact .atEnd rfl rfl

/-! ## The next token -/

theorem fetchNext_of_skip (hstarted : s.started = true)
    (hskip : skipToToken s.cursor.rest.length s = t) (hstale : t.dropStale = .ok t)
    (hunroll : t.unroll t.mark.column = t) {c : Char} (hpeek : t.cursor.peek = some c) :
    s.fetchNext = t.fetchAt c := by
  unfold fetchNext
  rw [hstarted, if_neg (by simp), hskip, hstale]
  simp only [bind, Except.bind, hunroll, hpeek]

/-- The break before the next line is passed over, if it has not been yet. -/
theorem AtLine.skip {next : Text} (h : s.AtLine next) (hflow : s.inFlow = false)
    (hnext : StartsToken next) :
    ∃ m allowed, skipToToken s.cursor.rest.length s =
        { s with cursor := ⟨next, m⟩, keyAllowed := allowed } ∧
      (next ≠ [] → m.column = 0 ∧ allowed = true) := by
  cases h with
  | before hcursor =>
      refine ⟨s.mark.nextLine 1, true, ?_, fun _ => ⟨rfl, rfl⟩⟩
      rw [hcursor]
      exact skipToToken_break hflow hcursor hnext _
  | behind hcursor hcolumn hallowed =>
      subst hcursor
      exact ⟨s.mark, s.keyAllowed, skipToToken_self hnext _, fun _ => ⟨hcolumn, hallowed⟩⟩
  | atEnd hcursor hover =>
      subst hover
      refine ⟨s.mark, s.keyAllowed, ?_, fun hne => absurd rfl hne⟩
      rw [skipToToken_self (by rw [hcursor]; exact hnext), ← hcursor]
      rfl

/-- The marks that are put before a key: one for the mapping, if it begins here,
and one for the key itself. -/
def keyMarks (opened : Bool) : List TokenKind :=
  if opened then [.key] else [.blockMappingStart, .key]

/-- **A colon makes what stands before it a key.** -/
theorem fetchValue_eq {place : KeyPlace} (hstarted : s.started = true)
    (hplaces : s.keyPlaces = [some place]) (hindent : s.indent = if opened then 0 else -1)
    (hindents : s.indents = if opened then [-1] else []) (htoken : place.token = s.taken)
    (hcolumn : place.mark.column = 0) :
    ∃ t, s.fetchValue = .ok t ∧
      t.Stands true (keyMarks opened ++ s.queue.map Token.kind ++ [.value]) ∧
      t.cursor = s.cursor.skip ∧ t.keyAllowed = false := by
  have hnumber : place.token - s.taken = 0 := by omega
  have hflow : (s.insertAt place.token ⟨.key, place.mark, place.mark⟩).inFlow = false := by
    rw [inFlow, insertAt, hplaces]
    rfl
  have hlevel : (s.insertAt place.token ⟨.key, place.mark, place.mark⟩).indent = s.indent := rfl
  unfold fetchValue
  rw [hplaces]
  refine ⟨_, rfl, ?_⟩
  unfold roll
  rw [hflow, hlevel, hindent, hcolumn]
  cases opened with
  | true =>
      refine ⟨⟨hstarted, rfl, hindent, hindents, ?_⟩, rfl, rfl⟩
      simp [insertAt, allowKey, pushMark, hnumber, keyMarks]
  | false =>
      refine ⟨⟨hstarted, rfl, rfl, ?_, ?_⟩, rfl, rfl⟩
      · simp [insertAt, allowKey, pushMark, hindent, hindents]
      · simp [insertAt, allowKey, pushMark, hnumber, keyMarks]

theorem unroll_self {column : Nat} (h : s.indent ≤ column) : s.unroll column = s := by
  unfold unroll
  split
  · rfl
  · cases hindents : s.indents with
    | nil => rfl
    | cons outer more =>
        show (if (column : Int) < s.indent then _ else s) = s
        rw [if_neg (by omega)]

theorem Stands.indent_le (h : s.Stands opened kinds) : s.indent ≤ 0 := by
  rw [h.indent]
  cases opened <;> decide

theorem Stands.queue_eq_nil (h : s.Stands opened []) : s.queue = [] :=
  List.map_eq_nil_iff.mp h.queue

/-- The place of a key at the beginning of a line, as long as its line goes on and it
is not too long. -/
theorem keepFresh_of_short {place : KeyPlace} {n : Nat} (hmark : s.mark = place.mark.after n)
    (hshort : n ≤ 1024) : s.keepFresh (some place) = .ok (some place) := by
  have hfresh : s.isStale place = false := by
    simp [isStale, hmark, Mark.after]
    omega
  rw [keepFresh, hfresh]
  rfl

/-- Where a key may begin, its place is noted. -/
theorem Stands.saveKey (h : s.Stands opened []) (hallowed : s.keyAllowed = true) :
    ∃ place : KeyPlace, s.saveKey = .ok { s with keyPlaces := [some place] } ∧
      place.token = s.taken ∧ place.mark = s.mark := by
  refine ⟨⟨!s.inFlow && s.indent = s.mark.column, s.taken + s.queue.length, s.mark⟩, ?_, ?_, rfl⟩
  · unfold TokenStream.saveKey setKey
    rw [hallowed, if_pos rfl, h.places]
  · rw [h.queue_eq_nil]
    rfl

theorem settle_of_empty (h : s.queue = []) (room : Nat) :
    settle (room + 1) s = s.fetchNext.bind (settle room) := by
  rw [settle, if_pos h]

theorem settle_of_undecided (hqueue : s.queue ≠ []) (hstale : s.dropStale = .ok s)
    (hkey : s.isUndecided = true) (room : Nat) :
    settle (room + 1) s = s.fetchNext.bind (settle room) := by
  rw [settle, if_neg hqueue, hstale]
  show (if s.isUndecided = true then _ else _) = _
  rw [hkey]
  rfl

/-- A key that has been read is decided by the colon behind it. -/
theorem settle_behind_key {place : KeyPlace} {kind : TokenKind} {n : Nat} (h : s.Stands opened [])
    (htoken : place.token = s.taken) (hmark : place.mark = s.mark) (hcolumn : s.mark.column = 0)
    (hn : n ≠ 0) (hshort : n ≤ 1024) (hrest : isBlankOrEnd rest.head? = true) (room : Nat) :
    ∃ t, settle (room + 2) (s.behind [some place] kind (s.mark.after n) (':' :: rest) false) =
        .ok t ∧
      t.Stands true (keyMarks opened ++ [kind, .value]) ∧
      t.cursor = ⟨rest, s.mark.after (n + 1)⟩ ∧ t.keyAllowed = false := by
  generalize hu : s.behind [some place] kind (s.mark.after n) (':' :: rest) false = u
  have hfresh : u.keepFresh (some place) = .ok (some place) := by
    refine keepFresh_of_short (n := n) ?_ hshort
    rw [hmark, ← hu]
    rfl
  have hstale : u.dropStale = .ok u := dropStale_of_fresh (by rw [← hu]; rfl) hfresh
  have hundecided : u.isUndecided = true := by
    rw [← hu]
    simp [isUndecided, behind, htoken]
  have hcolon : StartsToken u.cursor.rest := by
    rw [← hu]
    rintro c ⟨⟩
    decide
  have hflow : u.inFlow = false := by
    rw [← hu]
    rfl
  have hindent : u.indent = if opened then 0 else -1 := by
    rw [← hu]
    exact h.indent
  have hmarked : u.mark.column ≠ 0 := by
    rw [← hu]
    show s.mark.column + n ≠ 0
    omega
  have hunroll : u.unroll u.mark.column = u := by
    refine unroll_self ?_
    rw [hindent]
    cases opened <;> simp
  have hcursor : u.cursor.rest = ':' :: rest := by
    rw [← hu]
    rfl
  have hnext : u.fetchNext = u.fetchValue := by
    rw [fetchNext_of_skip (by rw [← hu]; exact h.started) (skipToToken_self hcolon _) hstale hunroll
      (by rw [Cursor.peek, hcursor]; rfl), fetchAt_colon hflow hmarked hcursor hrest]
  have hindents : u.indents = if opened then [-1] else [] := by
    rw [← hu]
    exact h.indents
  obtain ⟨t, hvalue, hstands, hafter, hallowed⟩ :=
    fetchValue_eq (by rw [← hu]; exact h.started) (by rw [← hu]; rfl) hindent hindents
      (htoken.trans (by rw [← hu]; rfl)) (hmark ▸ hcolumn)
  have hkinds : u.queue.map Token.kind = [kind] := by
    rw [← hu]
    simp [behind, h.queue_eq_nil]
  rw [hkinds, List.append_assoc] at hstands
  refine ⟨t, ?_, hstands, ?_, hallowed⟩
  · have hqueue : u.queue ≠ [] := by
      intro hnone
      rw [hnone] at hkinds
      cases hkinds
    rw [settle_of_undecided hqueue hstale hundecided, hnext, hvalue]
    exact hstands.settle (by simp) room
  · rw [hafter, ← hu]
    rfl

/-- **A key that begins a line is followed by the mark of its value.** -/
theorem Stands.shows_key {source text : Text} {style : Style} (h : s.Stands opened [])
    (hline : InLine false source style text) (hshort : source.length ≤ 1024)
    (hunmarked : startsDocumentMark (source ++ [':']) = false)
    (hat : s.AtLine (source ++ ':' :: rest)) (hrest : isBlankOrEnd rest.head? = true) :
    ∃ t, s.Shows true (keyMarks opened ++ [.scalar text style, .value]) t ∧
      t.cursor.rest = rest ∧ t.mark.column ≠ 0 ∧ t.keyAllowed = false := by
  obtain ⟨m, allowed, hskip, hfirst⟩ := hat.skip h.inFlow (hline.startsToken _)
  obtain ⟨hcolumn, rfl⟩ := hfirst (by simp)
  generalize hu : ({ s with
    cursor := ⟨source ++ ':' :: rest, m⟩, keyAllowed := true } : TokenStream) = u at hskip
  have hstands : u.Stands opened [] := by
    rw [← hu]
    exact ⟨h.started, h.places, h.indent, h.indents, h.queue⟩
  have hcursor : u.cursor = ⟨source ++ ':' :: rest, m⟩ := by
    rw [← hu]
  have hmark : u.mark = m := by
    rw [mark, hcursor]
  obtain ⟨place, hsave, htoken, hplace⟩ := hstands.saveKey (by rw [← hu])
  have hdocument : u.mark.column = 0 → startsDocumentMark u.cursor.rest = false := by
    intro
    rw [hcursor, startsDocumentMark_colon, hunmarked]
  obtain ⟨c, hpeek, hfetch⟩ := fetchAt_key hline hstands.inFlow hstands.indent_le hdocument hsave
    (by rw [hcursor]) hrest
  have hlength : source.length ≠ 0 := by
    obtain ⟨d, more, rfl⟩ := hline.exists_cons
    simp
  obtain ⟨t, hsettle, hshown, hafter, hallowed⟩ := settle_behind_key hstands htoken hplace
    (by rw [hmark, hcolumn]) hlength hshort hrest (s.cursor.rest.length)
  have hnext : s.fetchNext = u.fetchAt c :=
    fetchNext_of_skip h.started hskip hstands.dropStale (hstands.unroll _) hpeek
  refine ⟨t, shows_of_settle ?_ hshown (by simp), by rw [hafter], ?_, hallowed⟩
  · rw [settle_of_empty h.queue_eq_nil, hnext, hfetch]
    exact hsettle
  · rw [mark, hafter]
    show u.mark.column + (source.length + 1) ≠ 0
    omega

/-- **A value is the next token behind its colon**, and its line is over then. -/
theorem Stands.shows_value {source text tail next : Text} {style : Style} (h : s.Stands true [])
    (hline : InLine true source style text) (hallowed : s.keyAllowed = false)
    (hcursor : s.cursor.rest = ' ' :: (source ++ (tail ++ next)))
    (htail : tail = ['\n'] ∨ tail = [] ∧ next = []) (hnext : StartsToken next) :
    ∃ t, s.Shows true [.scalar text style] t ∧ t.AtLine next := by
  have htoken := hline.startsToken (tail ++ next)
  have hskip := skipToToken_blank hcursor htoken s.cursor.rest.length
  generalize hu : ({ s with
    cursor := ⟨source ++ (tail ++ next), s.mark.after 1⟩ } : TokenStream) = u at hskip
  have hstands : u.Stands true [] := by
    rw [← hu]
    exact ⟨h.started, h.places, h.indent, h.indents, h.queue⟩
  have hsave : u.saveKey = .ok { u with keyPlaces := [none] } := by
    have hplaces : ({ u with keyPlaces := [none] } : TokenStream) = u := by
      rw [← hstands.places]
    have hclosed : u.keyAllowed = false := by
      rw [← hu]
      exact hallowed
    rw [hplaces, TokenStream.saveKey, hclosed, if_neg (by simp)]
  have hmarked : u.mark.column ≠ 0 := by
    rw [← hu]
    exact Nat.succ_ne_zero s.mark.column
  obtain ⟨c, stop, after, allowed, hpeek, hfetch, hat⟩ :=
    fetchAt_value hline hstands.inFlow hstands.indent hmarked hsave (by rw [← hu]) htail hnext
  have hread : s.fetchNext = _ := (fetchNext_of_skip h.started hskip hstands.dropStale
    (hstands.unroll _) hpeek).trans hfetch
  have hbehind : (u.behind [none] (.scalar text style) stop after allowed).Stands true
      [.scalar text style] := by
    refine ⟨hstands.started, rfl, hstands.indent, hstands.indents, ?_⟩
    simp [behind, hstands.queue_eq_nil]
  refine ⟨_, shows_of_settle ?_ hbehind (by simp), hat⟩
  rw [settle_of_empty h.queue_eq_nil, hread]
  exact hbehind.settle (by simp) _

/-- The end of a text closes the mapping. -/
theorem Stands.unroll_end (h : s.Stands true []) :
    s.unroll (-1) = { s with
      queue := [⟨.blockEnd, s.mark, s.mark⟩], indent := -1, indents := [] } := by
  have hindent : (-1 : Int) < s.indent := by
    rw [h.indent]
    decide
  rw [TokenStream.unroll, h.inFlow, if_neg (by simp), h.indents]
  show (if (-1 : Int) < s.indent then _ else s) = _
  rw [if_pos hindent, push, h.queue_eq_nil]
  rfl

theorem Stands.fetchStreamEnd (h : s.Stands true []) :
    ∃ t, s.fetchStreamEnd = .ok t ∧ t.Stands false [.blockEnd, .streamEnd] := by
  -- The end counts as a new line, which changes nothing but its place.
  have hend (u : TokenStream) (hu : u.Stands true []) :
      ∃ t, ((u.unroll (-1)).dropKey >>= fun s =>
          pure ((s.allowKey false).push ⟨.streamEnd, s.mark, s.mark⟩)) = .ok t ∧
        t.Stands false [.blockEnd, .streamEnd] := by
    rw [hu.unroll_end, dropKey, setKey, hu.places]
    exact ⟨_, rfl, ⟨hu.started, rfl, rfl, rfl, rfl⟩⟩
  unfold TokenStream.fetchStreamEnd
  split
  · exact hend s h
  · exact hend _ ⟨h.started, h.places, h.indent, h.indents, h.queue⟩

/-- **A mapping ends with its text.** -/
theorem Stands.shows_end (h : s.Stands true []) (hat : s.AtLine []) :
    ∃ t, s.Shows false [.blockEnd, .streamEnd] t := by
  obtain ⟨m, allowed, hskip, -⟩ := hat.skip h.inFlow (by rintro c ⟨⟩)
  generalize hu : ({ s with cursor := ⟨[], m⟩, keyAllowed := allowed } : TokenStream) = u at hskip
  have hstands : u.Stands true [] := by
    rw [← hu]
    exact ⟨h.started, h.places, h.indent, h.indents, h.queue⟩
  obtain ⟨t, hfetch, hshown⟩ := hstands.fetchStreamEnd
  have hread : s.fetchNext = .ok t := by
    unfold fetchNext
    have hover : u.cursor.peek = none := by
      rw [← hu]
      rfl
    rw [h.started, if_neg (by simp), hskip, hstands.dropStale]
    simp only [bind, Except.bind, hstands.unroll, hover, hfetch]
  refine ⟨t, shows_of_settle ?_ hshown (by simp)⟩
  rw [settle_of_empty h.queue_eq_nil, hread]
  exact hshown.settle (by simp) _

/-- A stream begins with its own token, and in the first line a key may come next. -/
theorem shows_start (text : Text) :
    ∃ t, (ofText text).Shows false [.streamStart] t ∧ t.cursor = ⟨text, .zero⟩ ∧
      t.keyAllowed = true := by
  have hstands : (ofText text).fetchStreamStart.Stands false [.streamStart] :=
    ⟨rfl, rfl, rfl, rfl, rfl⟩
  refine ⟨_, shows_of_settle ?_ hstands (by simp), rfl, rfl⟩
  rw [settle_of_empty rfl]
  exact hstands.settle (by simp) _

end TokenStream

end JobsGateway.Yaml
