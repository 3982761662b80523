import JobsGateway.Yaml.TokenStream

/-!
# Scalars in one line

How a scalar may be written within a line: plain, or between quotes with escapes
for characters that may not stand there. Each way is read as the text that it is
written for, and the cursor is behind it then.
-/

namespace JobsGateway.Yaml

/-- The mark after some more characters of a line. -/
def Mark.after (m : Mark) (n : Nat) : Mark :=
  ⟨m.index + n, m.line, m.column + n⟩

theorem Mark.after_after (m : Mark) (k n : Nat) : (m.after k).after n = m.after (k + n) := by
  simp [after, Nat.add_assoc]

theorem Mark.next_eq (m : Mark) : m.next = m.after 1 := rfl

namespace Quoted

/-- The quote that is opened and closed with. -/
def quoteOf (double : Bool) : Char :=
  if double then '"' else '\''

/-- What stands for one character between quotes. -/
inductive Piece (double : Bool) : Text → Char → Prop where
  | char {c : Char} : isBreak c = false → c ≠ quoteOf double → (double = true → c ≠ '\\') →
      Piece double [c] c
  | quote : double = false → Piece double ['\'', '\''] '\''
  | letter {e c : Char} : double = true → letterEscape? e = some c → Piece double ['\\', e] c
  | code {e c : Char} {digits : Text} {n : Nat} : double = true →
      hexLength? e = some digits.length → Text.natural? 16 digits = some n →
      ofCodePoint? n = some c → Piece double ('\\' :: e :: digits) c

/-- What stands for a text between quotes. -/
inductive Inner (double : Bool) : Text → Text → Prop where
  | nil : Inner double [] []
  | cons {piece source text : Text} {c : Char} : Piece double piece c → Inner double source text →
      Inner double (piece ++ source) (c :: text)

/-- A state in which a text has been read within the line, up to a mark. -/
structure State.HasRead (s : State) (text : Text) (m : Mark) : Prop where
  unbroken : s.gap.broken = false
  text : s.gap.blanks ++ s.out = text.reverse
  mark : s.mark = m
  inside : m.column ≠ 0

theorem State.HasRead.close {s : State} {text : Text} {m : Mark} (h : s.HasRead text m) :
    s.close = ⟨text.reverse, .none, m⟩ := by
  rw [State.close, Gap.fold, h.unbroken, ← h.text, ← h.mark]
  rfl

theorem State.HasRead.push {text : Text} {m : Mark} (hm : m.column ≠ 0) (c : Char) (n : Nat) :
    (State.push ⟨text.reverse, .none, m⟩ c n).HasRead (text ++ [c]) (m.after n) where
  unbroken := rfl
  text := by simp [State.push, Gap.none]
  mark := rfl
  inside := by
    show m.column + n ≠ 0
    omega

theorem isBreak_of_letterEscape? {e c : Char} (h : letterEscape? e = some c) :
    isBreak e = false := by
  unfold letterEscape? at h
  split at h
  case h_19 => cases h
  all_goals rfl

theorem of_hexLength? {e : Char} {n : Nat} (h : hexLength? e = some n) :
    isBreak e = false ∧ letterEscape? e = none := by
  unfold hexLength? at h
  split at h
  case h_4 => cases h
  all_goals exact ⟨rfl, rfl⟩

section Scan

variable {double : Bool} {start : Mark} {s : State} {text : Text} {m : Mark}

/-- A visible character ends the gap before it. -/
theorem scan_visible (h : s.HasRead text m) {c : Char} (hblank : isBlank c = false)
    (hbreak : isBreak c = false) (rest : Text) :
    scan double start s (c :: rest) =
      scan double start ⟨text.reverse, .none, m⟩ (c :: rest) := by
  rw [scan, scan]
  simp only [hblank, hbreak, h.close]
  simp [h.mark, h.inside, State.close, Gap.fold, Gap.none]

theorem scan_blank (h : s.HasRead text m) {c : Char} (hblank : isBlank c = true) (rest : Text) :
    ∃ s', scan double start s (c :: rest) = scan double start s' rest ∧
      s'.HasRead (text ++ [c]) (m.after 1) := by
  refine ⟨{ s with gap := s.gap.addBlank c, mark := s.mark.next }, ?_, ?_⟩
  · rw [scan]
    simp [hblank]
  · have hgap : s.gap.addBlank c = { s.gap with blanks := c :: s.gap.blanks } := by
      simp [Gap.addBlank, h.unbroken]
    rw [hgap]
    refine ⟨h.unbroken, ?_, ?_, ?_⟩
    · simp [h.text]
    · rw [← h.mark]
      rfl
    · show m.column + 1 ≠ 0
      omega

/-- **A piece is read as its character.** -/
theorem scan_piece {piece : Text} {c : Char} (hpiece : Piece double piece c)
    (h : s.HasRead text m) (rest : Text) :
    ∃ s', scan double start s (piece ++ rest) = scan double start s' rest ∧
      s'.HasRead (text ++ [c]) (m.after piece.length) := by
  cases hpiece with
  | char hbreak hquote hescape =>
      cases hblank : isBlank c with
      | true => exact scan_blank h hblank rest
      | false =>
          refine ⟨_, ?_, State.HasRead.push h.inside c 1⟩
          rw [List.singleton_append, scan_visible h hblank hbreak, scan]
          cases double with
          | true =>
              have hslash : c ≠ '\\' := hescape rfl
              have hquote : c ≠ '"' := hquote
              simp [hblank, hbreak, h.inside, State.close, Gap.fold, Gap.none, hslash, hquote]
          | false =>
              have hquote : c ≠ '\'' := hquote
              simp [hblank, hbreak, h.inside, State.close, Gap.fold, Gap.none, hquote]
  | quote hsingle =>
      subst hsingle
      refine ⟨_, ?_, State.HasRead.push h.inside '\'' 2⟩
      rw [List.cons_append, scan_visible h (by decide) (by decide), scan]
      simp [h.inside, State.close, Gap.fold, Gap.none, (by decide : isBlank '\'' = false),
        (by decide : isBreak '\'' = false)]
  | letter hdouble hletter =>
      subst hdouble
      refine ⟨_, ?_, State.HasRead.push h.inside c 2⟩
      rw [List.cons_append, scan_visible h (by decide) (by decide), scan]
      simp [h.inside, State.close, Gap.fold, Gap.none, (by decide : isBlank '\\' = false),
        (by decide : isBreak '\\' = false), isBreak_of_letterEscape? hletter, hletter]
  | @code e c digits n hdouble hlength hdigits hcode =>
      subst hdouble
      obtain ⟨hbreak, hletter⟩ := of_hexLength? hlength
      have hpiece : ('\\' :: e :: digits).length = 2 + digits.length := by
        rw [List.length_cons, List.length_cons]
        omega
      rw [hpiece]
      refine ⟨_, ?_, State.HasRead.push h.inside c (2 + digits.length)⟩
      rw [List.cons_append, scan_visible h (by decide) (by decide), scan]
      simp [h.inside, State.close, Gap.fold, Gap.none, (by decide : isBlank '\\' = false),
        (by decide : isBreak '\\' = false), hbreak, hletter, hlength, hdigits, hcode]

theorem scan_quote (h : s.HasRead text m) {rest : Text} (hrest : rest.head? ≠ some '\'') :
    scan double start s (quoteOf double :: rest) = .ok (text, ⟨rest, m.after 1⟩) := by
  have hvisible : isBlank (quoteOf double) = false ∧ isBreak (quoteOf double) = false := by
    cases double <;> decide
  rw [scan_visible h hvisible.1 hvisible.2, scan]
  cases double with
  | true =>
      simp [quoteOf, h.inside, State.close, Gap.fold, Gap.none, Mark.next_eq,
        (by decide : isBlank '"' = false), (by decide : isBreak '"' = false)]
  | false =>
      simp [quoteOf, h.inside, State.close, Gap.fold, Gap.none, Mark.next_eq, hrest,
        (by decide : isBlank '\'' = false), (by decide : isBreak '\'' = false)]

/-- **What stands between quotes is read as its text**, up to the closing quote. -/
theorem scan_inner {source added : Text} (hinner : Inner double source added)
    (h : s.HasRead text m) {rest : Text} (hrest : rest.head? ≠ some '\'') :
    scan double start s (source ++ quoteOf double :: rest) =
      .ok (text ++ added, ⟨rest, m.after (source.length + 1)⟩) := by
  induction hinner generalizing s text m with
  | nil =>
      rw [List.nil_append, scan_quote h hrest, List.append_nil]
      rfl
  | @cons piece source added c hpiece _ ih =>
      obtain ⟨s', hscan, h'⟩ := scan_piece hpiece h (source ++ quoteOf double :: rest)
      rw [List.append_assoc, hscan, ih h', Mark.after_after, List.length_append, List.append_assoc,
        ← Nat.add_assoc]
      rfl

end Scan

/-- Whether a character needs no escape between quotes. -/
def isBare (double : Bool) (c : Char) : Bool :=
  !isBreak c && c != quoteOf double && c != '\\'

/-- Characters that need no escape stand for themselves. -/
theorem inner_self {double : Bool} {text : Text} (h : text.all (isBare double) = true) :
    Inner double text text := by
  induction text with
  | nil => exact .nil
  | cons c text ih =>
      rw [List.all_cons, Bool.and_eq_true] at h
      obtain ⟨hbare, hrest⟩ := h
      simp only [isBare, Bool.and_eq_true, Bool.not_eq_true', bne_iff_ne] at hbare
      obtain ⟨⟨hbreak, hquote⟩, hslash⟩ := hbare
      exact .cons (.char hbreak hquote fun _ => hslash) (ih hrest)

end Quoted

namespace Plain

/-- Whether the next character is a blank, a break or the end. `ends` says so for
what comes after the text. -/
def endsWord (ends : Bool) : Text → Bool
  | [] => ends
  | c :: _ => isBlankOrEnd (some c)

/-- Whether a plain scalar goes on to the end of a text and no further. `gap` says
whether there is a blank before it. -/
def goesOn (ends gap : Bool) : Text → Bool
  | [] => !gap
  | c :: rest =>
    if isBlank c then goesOn ends true rest
    else !isBreak c && c != '\ufeff' && !(gap && c == '#') && !(c == ':' && endsWord ends rest) &&
      goesOn ends false rest

/-- Whether a plain scalar may begin with a character. -/
def begins (ends : Bool) (c : Char) (rest : Text) : Bool :=
  if c == '-' || c == '?' || c == ':' then !endsWord ends rest
  else !isBlank c && !",[]\x7b\x7d#&*!|>'\"%@`".toList.contains c

/-- Whether a text is a plain scalar in one line. -/
def isLine (ends : Bool) : Text → Bool
  | [] => false
  | c :: rest => begins ends c rest && goesOn ends false (c :: rest)

/-- The blanks since the last visible character of the line. -/
def gapOf (blanks : Text) : Gap :=
  ⟨blanks, [], [], false⟩

theorem endsWord_eq {ends : Bool} {rest : Text} (hrest : isBlankOrEnd rest.head? = ends)
    (text : Text) : endsWord ends text = isBlankOrEnd (text ++ rest).head? := by
  cases text with
  | nil => exact hrest.symm
  | cons c text => rfl

/-- A plain scalar does not begin with a blank, a break, a comment or a byte order
mark. -/
theorem visible_of_isLine {ends : Bool} {c : Char} {rest : Text}
    (h : isLine ends (c :: rest) = true) :
    isBlank c = false ∧ isBreak c = false ∧ c ≠ '#' ∧ c ≠ '\ufeff' := by
  obtain ⟨hbegins, hgoes⟩ := Bool.and_eq_true_iff.mp h
  have hbegin : isBlank c = false ∧ c ≠ '#' := by
    unfold begins at hbegins
    split at hbegins
    · rename_i hmark
      simp only [Bool.or_eq_true, beq_iff_eq] at hmark
      rcases hmark with (rfl | rfl) | rfl <;> decide
    · obtain ⟨hblank, hlist⟩ := Bool.and_eq_true_iff.mp hbegins
      refine ⟨by simpa using hblank, ?_⟩
      rintro rfl
      exact absurd hlist (by decide)
  rw [goesOn, hbegin.1, if_neg (by simp)] at hgoes
  simp only [Bool.and_eq_true, Bool.not_eq_true', bne_iff_ne] at hgoes
  obtain ⟨⟨⟨⟨hbreak, hmark⟩, -⟩, -⟩, -⟩ := hgoes
  exact ⟨hbegin.1, hbreak, hbegin.2, hmark⟩

section Scan

variable {at_ : Setting} {ends : Bool} {rest : Text}

theorem scan_blank {c : Char} (hblank : isBlank c = true) (out blanks : Text) (m : Mark) :
    scan at_ ⟨out, gapOf blanks, m⟩ (c :: rest) =
      scan at_ ⟨out, gapOf (c :: blanks), m.after 1⟩ rest := by
  rw [scan.eq_def]
  simp [hblank, gapOf, Gap.addBlank, Mark.next_eq]

theorem scan_visible (hflow : at_.inFlow = false) (hindent : at_.indent ≤ 1) {c : Char}
    (hblank : isBlank c = false) (hbreak : isBreak c = false) {out blanks : Text} {m : Mark}
    (hgap : blanks ≠ [] → m.column ≠ 0 ∧ c ≠ '#')
    (hcolon : (c == ':' && isBlankOrEnd rest.head?) = false) :
    scan at_ ⟨out, gapOf blanks, m⟩ (c :: rest) =
      scan at_ ⟨c :: blanks ++ out, .none, m.after 1⟩ rest := by
  have hgoes : ((gapOf blanks).isOpen &&
      endsAfterGap at_ ⟨out, gapOf blanks, m⟩ c rest) = false := by
    by_cases hopen : blanks = []
    · simp [Gap.isOpen, gapOf, hopen]
    · obtain ⟨hcolumn, hhash⟩ := hgap hopen
      have hindented : ¬ (m.column : Int) < at_.indent := by omega
      simp [endsAfterGap, hflow, hindented, hhash, hcolumn]
  rw [scan.eq_def]
  simp only [hblank, hbreak, hgoes, isStrayColon, endsBefore, hflow, hcolon]
  rfl

/-- **A plain scalar is read to its end.** -/
theorem scan_goesOn (hflow : at_.inFlow = false) (hindent : at_.indent ≤ 1)
    (hrest : isBlankOrEnd rest.head? = ends) {source : Text} {out blanks : Text} {m : Mark}
    (hcolumn : blanks ≠ [] → m.column ≠ 0)
    (hgoes : goesOn ends (!blanks.isEmpty) source = true) :
    scan at_ ⟨out, gapOf blanks, m⟩ (source ++ rest) =
      scan at_ ⟨source.reverse ++ blanks ++ out, .none, m.after source.length⟩ rest := by
  induction source generalizing out blanks m with
  | nil =>
      have hnone : blanks = [] := by simpa [goesOn] using hgoes
      rw [hnone]
      rfl
  | cons c source ih =>
      rw [goesOn] at hgoes
      cases hblank : isBlank c with
      | true =>
          rw [if_pos hblank] at hgoes
          have hnext : scan at_ ⟨out, gapOf (c :: blanks), m.after 1⟩ (source ++ rest) = _ :=
            ih (fun _ => Nat.succ_ne_zero m.column) hgoes
          rw [List.cons_append, scan_blank hblank, hnext, Mark.after_after, Nat.add_comm 1]
          simp
      | false =>
          rw [hblank, if_neg (by simp)] at hgoes
          simp only [Bool.and_eq_true, Bool.not_eq_true', endsWord_eq hrest] at hgoes
          obtain ⟨⟨⟨⟨hbreak, -⟩, hhash⟩, hcolon⟩, hgoes⟩ := hgoes
          have hgap : blanks ≠ [] → m.column ≠ 0 ∧ c ≠ '#' := by
            intro hne
            refine ⟨hcolumn hne, ?_⟩
            rintro rfl
            simp [hne] at hhash
          rw [List.cons_append, scan_visible hflow hindent hblank hbreak hgap hcolon]
          have hnext : scan at_ ⟨c :: blanks ++ out, gapOf [], m.after 1⟩ (source ++ rest) = _ :=
            ih (fun hne => absurd rfl hne) hgoes
          rw [Mark.after_after, Nat.add_comm 1] at hnext
          refine hnext.trans ?_
          simp

/-- A line that is a plain scalar is read from its first character on. -/
theorem scan_line (hflow : at_.inFlow = false) (hindent : at_.indent ≤ 1)
    (hrest : isBlankOrEnd rest.head? = ends) {text : Text} (hline : isLine ends text = true)
    (m : Mark) :
    scan at_ ⟨[], .none, m⟩ (text ++ rest) =
      scan at_ ⟨text.reverse, .none, m.after text.length⟩ rest := by
  have hgoes : goesOn ends (!([] : Text).isEmpty) text = true := by
    cases text with
    | nil => cases hline
    | cons c text => exact (Bool.and_eq_true_iff.mp hline).2
  have hscan : scan at_ ⟨[], gapOf [], m⟩ (text ++ rest) = _ :=
    scan_goesOn hflow hindent hrest (fun hne => absurd rfl hne) hgoes
  rw [List.append_nil, List.append_nil] at hscan
  exact hscan

/-- A colon before a blank ends a plain scalar. -/
theorem scan_colon (hflow : at_.inFlow = false) (out : Text) (m : Mark)
    (hrest : isBlankOrEnd rest.head? = true) :
    scan at_ ⟨out, .none, m⟩ (':' :: rest) = .ok (⟨out, .none, m⟩, ':' :: rest) := by
  have hcolon : isBlank ':' = false ∧ isBreak ':' = false := by decide
  rw [scan.eq_def]
  simp [hcolon, isStrayColon, endsBefore, hrest, hflow, Gap.isOpen, Gap.none]

/-- A line break before a line that is not indented ends a plain scalar, and is
passed over. -/
theorem scan_break (hflow : at_.inFlow = false) (hindent : at_.indent = 1) (out : Text) (m : Mark)
    (hrest : ∀ c, rest.head? = some c → isBlank c = false ∧ isBreak c = false) :
    scan at_ ⟨out, .none, m⟩ ('\n' :: rest) =
      .ok (⟨out, ⟨[], ['\n'], [], true⟩, m.nextLine 1⟩, rest) := by
  have hbreak : isBlank '\n' = false ∧ isBreak '\n' = true := by decide
  rw [scan.eq_def]
  simp only [hbreak.1, hbreak.2, Gap.addBreak, Gap.none, breakChar]
  cases rest with
  | nil => rfl
  | cons c rest =>
      obtain ⟨hblank, hbreak⟩ := hrest c rfl
      have hends : endsAfterGap at_ ⟨out, ⟨[], ['\n'], [], true⟩, m.nextLine 1⟩ c rest = true := by
        simp [endsAfterGap, hflow, hindent, Mark.nextLine]
      show scan at_ ⟨out, ⟨[], ['\n'], [], true⟩, m.nextLine 1⟩ (c :: rest) = _
      rw [scan.eq_def]
      simp [hblank, hbreak, Gap.isOpen, hends]

end Scan

end Plain

/-! ## All kinds -/

/-- The style of a scalar between quotes. -/
def Quoted.styleOf (double : Bool) : Style :=
  if double then .doubleQuoted else .singleQuoted

/-- How a text may be written as a scalar in one line. -/
inductive InLine (ends : Bool) : Text → Style → Text → Prop where
  | plain {text : Text} : Plain.isLine ends text = true → InLine ends text .plain text
  | quoted {double : Bool} {source text : Text} : Quoted.Inner double source text →
      InLine ends (Quoted.quoteOf double :: source ++ [Quoted.quoteOf double])
        (Quoted.styleOf double) text

/-- A scalar as it is written in one line. `ends` says whether a blank, a break or
the end comes after it. -/
structure OneLine (ends : Bool) where
  source : Text
  style : Style
  text : Text
  inLine : InLine ends source style text
  allowed : ∀ c ∈ source, isAllowed c = true

end JobsGateway.Yaml
