import JobsGateway.Client.Head
import JobsGateway.Proofs.Outcome

/-!
# What a response head is

A head is described by the texts that it is put together from: empty lines, a
status line, field lines and the line that ends it. The reader succeeds exactly
on texts that begin with such a head, and leaves what follows it.
-/

namespace JobsGateway.Reply

/-! ## Texts of a head -/

/-- The end of a line. -/
inductive LineEnd : Bytes → Prop
  | feed : LineEnd [0x0A]
  | returnFeed : LineEnd [0x0D, 0x0A]

/-- Lines with nothing in them. -/
inductive EmptyLines : Bytes → Prop
  | none : EmptyLines []
  | more {e s : Bytes} : LineEnd e → EmptyLines s → EmptyLines (e ++ s)

/-- The name of a version, which is 1.1 or 1.0. -/
def versionText (isCurrent : Bool) : Bytes :=
  if isCurrent then octets "HTTP/1.1" else octets "HTTP/1.0"

/-- What follows the status code: the end of the line, perhaps after a space and
a phrase. -/
inductive Reason : Bytes → Prop
  | bare {e : Bytes} : LineEnd e → Reason e
  | phrase {phrase e : Bytes} :
      (∀ b ∈ phrase, isFieldOctet b = true) → LineEnd e → Reason (0x20 :: phrase ++ e)

/-- A field as a line. -/
inductive FieldLine : Bytes → Field → Prop
  | mk {name value e : Bytes} :
      name ≠ [] → (∀ b ∈ name, isNameOctet b = true) → (∀ b ∈ value, isFieldOctet b = true) →
      LineEnd e →
      FieldLine (name ++ 0x3A :: value ++ e) (.of (charsOf name) (trimBlanks value))

/-- Field lines, and the empty line after them. -/
inductive FieldBlock : Bytes → Fields → Prop
  | last {e : Bytes} : LineEnd e → FieldBlock e []
  | field {line s : Bytes} {f : Field} {fields : Fields} :
      FieldLine line f → FieldBlock s fields → FieldBlock (line ++ s) (f :: fields)

/-- A whole response head, with no more fields than it may have. -/
inductive HeadText : Bytes → Head → Prop
  | mk {empty reason block : Bytes} {isCurrent : Bool} {a b c : UInt8} {fields : Fields} :
      EmptyLines empty → isDigit a = true → isDigit b = true → isDigit c = true →
      100 ≤ codeOf a b c → Reason reason → FieldBlock block fields →
      fields.length ≤ fieldLimit →
      HeadText (empty ++ versionText isCurrent ++ 0x20 :: a :: b :: c :: reason ++ block)
        ⟨isCurrent, ⟨codeOf a b c⟩, fields⟩

/-- The head of the final response, after those of informational ones. -/
inductive FinalHead : Bytes → Head → Prop
  | final {s : Bytes} {head : Head} :
      HeadText s head → isInformational head.status = false → FinalHead s head
  | interim {s rest : Bytes} {interim head : Head} :
      HeadText s interim → isInformational interim.status = true → FinalHead rest head →
      FinalHead (s ++ rest) head

/-! ## Lines -/

theorem lineEnd?_eq_some_iff {s rest : Bytes} :
    lineEnd? s = some rest ↔ ∃ e, LineEnd e ∧ s = e ++ rest := by
  constructor
  · intro h
    unfold lineEnd? at h
    split at h
    · cases h
      exact ⟨_, .returnFeed, rfl⟩
    · cases h
      exact ⟨_, .feed, rfl⟩
    · cases h
  · rintro ⟨e, he, rfl⟩
    cases he <;> rfl

/-- A line end does not begin like a value. -/
theorem LineEnd.head {e : Bytes} (h : LineEnd e) (rest : Bytes) :
    ∀ b, (e ++ rest).head? = some b → isFieldOctet b = false := by
  intro b hb
  cases h with
  | feed =>
      cases hb
      decide
  | returnFeed =>
      cases hb
      decide

/-- Octets of a kind end where none of the kind follows. -/
theorem cut_append {p : UInt8 → Bool} {front rest : Bytes} (hfront : ∀ b ∈ front, p b = true)
    (hrest : ∀ b, rest.head? = some b → p b = false) :
    (front ++ rest).takeWhile p = front ∧ (front ++ rest).dropWhile p = rest := by
  rw [List.takeWhile_append_of_pos hfront, List.dropWhile_append_of_pos hfront]
  cases rest with
  | nil => exact ⟨List.append_nil front, rfl⟩
  | cons b rest =>
      have hb : ¬ p b = true := by simp [hrest b rfl]
      rw [List.takeWhile_cons_of_neg hb, List.dropWhile_cons_of_neg hb, List.append_nil]
      exact ⟨rfl, rfl⟩

theorem of_mem_takeWhile {p : UInt8 → Bool} {s : Bytes} : ∀ b ∈ s.takeWhile p, p b = true :=
  List.all_eq_true.mp List.all_takeWhile

/-- Empty lines are passed over as far as they go. -/
theorem skipEmptyLines_eq_ok_iff {s rest : Bytes} :
    skipEmptyLines s = .ok rest ↔
      ∃ empty b more, EmptyLines empty ∧ rest = b :: more ∧ b ≠ 0x0A ∧ b ≠ 0x0D ∧
        s = empty ++ rest := by
  constructor
  · intro h
    fun_induction skipEmptyLines s with
    | case1 s ih =>
        obtain ⟨empty, b, more, hempty, hrest, hfeed, hreturn, rfl⟩ := ih h
        exact ⟨_, b, more, .more .feed hempty, hrest, hfeed, hreturn, rfl⟩
    | case2 s ih =>
        obtain ⟨empty, b, more, hempty, hrest, hfeed, hreturn, rfl⟩ := ih h
        exact ⟨_, b, more, .more .returnFeed hempty, hrest, hfeed, hreturn, rfl⟩
    | case3 => cases h
    | case4 => cases h
    | case5 => cases h
    | case6 s hfeed _ hnil _ hreturn =>
        cases h
        obtain ⟨b, more, rfl⟩ := List.exists_cons_of_ne_nil hnil
        refine ⟨[], b, more, .none, rfl, ?_, ?_, rfl⟩
        · rintro rfl
          exact hfeed _ rfl
        · rintro rfl
          exact hreturn _ rfl
  · rintro ⟨empty, b, more, hempty, rfl, hfeed, hreturn, rfl⟩
    induction hempty with
    | none =>
        rw [List.nil_append, skipEmptyLines] <;> simp [hfeed, hreturn]
    | more he _ ih =>
        cases he with
        | feed => exact ih
        | returnFeed => exact ih

/-! ## The status line -/

theorem isPrefixOf_iff {front s : Bytes} :
    front.isPrefixOf s = true ↔ ∃ rest, s = front ++ rest := by
  rw [List.isPrefixOf_iff_prefix]
  exact ⟨fun ⟨rest, h⟩ => ⟨rest, h.symm⟩, fun ⟨rest, h⟩ => ⟨rest, h.symm⟩⟩

theorem readVersion_eq_ok_iff {s rest : Bytes} {isCurrent : Bool} :
    readVersion s = .ok (isCurrent, rest) ↔ s = versionText isCurrent ++ rest := by
  constructor
  · intro h
    unfold readVersion at h
    split at h
    · rename_i hprefix
      obtain ⟨more, rfl⟩ := isPrefixOf_iff.mp hprefix
      cases h
      rfl
    · split at h
      · rename_i hprefix
        obtain ⟨more, rfl⟩ := isPrefixOf_iff.mp hprefix
        cases h
        rfl
      · split at h <;> cases h
  · rintro rfl
    cases isCurrent <;> rfl

theorem readSpace_eq_ok_iff {s rest : Bytes} : readSpace s = .ok rest ↔ s = 0x20 :: rest := by
  constructor
  · intro h
    unfold readSpace at h
    split at h
    · cases h
    · cases h
      rfl
    · cases h
  · rintro rfl
    rfl

theorem readCode_eq_ok_iff {s rest : Bytes} {n : Nat} :
    readCode s = .ok (n, rest) ↔
      ∃ a b c, isDigit a = true ∧ isDigit b = true ∧ isDigit c = true ∧ n = codeOf a b c ∧
        s = a :: b :: c :: rest := by
  constructor
  · intro h
    unfold readCode at h
    split at h
    · rename_i a b c more
      split at h
      · rename_i hdigits
        obtain ⟨hab, hc⟩ := Bool.and_eq_true_iff.mp hdigits
        obtain ⟨ha, hb⟩ := Bool.and_eq_true_iff.mp hab
        cases h
        exact ⟨a, b, c, ha, hb, hc, rfl, rfl⟩
      · cases h
    · split at h <;> cases h
  · rintro ⟨a, b, c, ha, hb, hc, rfl, rfl⟩
    rw [readCode, ha, hb, hc]
    rfl

theorem skipReason_eq_ok_iff {s rest : Bytes} :
    skipReason s = .ok rest ↔
      ∃ phrase e, (∀ b ∈ phrase, isFieldOctet b = true) ∧ LineEnd e ∧
        s = phrase ++ (e ++ rest) := by
  constructor
  · intro h
    fun_induction skipReason s with
    | case1 => cases h
    | case2 more =>
        cases h
        exact ⟨[], _, by simp, .returnFeed, rfl⟩
    | case3 => cases h
    | case4 more =>
        cases h
        exact ⟨[], _, by simp, .feed, rfl⟩
    | case5 b s _ _ _ hb ih =>
        obtain ⟨phrase, e, hphrase, he, rfl⟩ := ih h
        exact ⟨b :: phrase, e, List.forall_mem_cons.mpr ⟨hb, hphrase⟩, he, rfl⟩
    | case6 => cases h
  · rintro ⟨phrase, e, hphrase, he, rfl⟩
    induction phrase with
    | nil => cases he <;> rfl
    | cons b phrase ih =>
        obtain ⟨hb, hphrase⟩ := List.forall_mem_cons.mp hphrase
        have hreturn : b ≠ 0x0D := by
          rintro rfl
          cases hb
        have hfeed : b ≠ 0x0A := by
          rintro rfl
          cases hb
        rw [List.cons_append, skipReason, if_pos hb, ih hphrase] <;> simp [hreturn, hfeed]

theorem readReason_eq_ok_iff {s rest : Bytes} :
    readReason s = .ok rest ↔ ∃ reason, Reason reason ∧ s = reason ++ rest := by
  constructor
  · intro h
    unfold readReason at h
    split at h
    · cases h
    · cases h
    · obtain ⟨phrase, e, hphrase, he, rfl⟩ := skipReason_eq_ok_iff.mp h
      exact ⟨_, .phrase hphrase he, by simp⟩
    · split at h
      · rename_i hend
        cases h
        obtain ⟨e, he, rfl⟩ := lineEnd?_eq_some_iff.mp hend
        exact ⟨e, .bare he, rfl⟩
      · cases h
  · rintro ⟨reason, hreason, rfl⟩
    cases hreason with
    | bare he => cases he <;> rfl
    | @phrase phrase e hphrase he =>
        have hskip : skipReason (phrase ++ (e ++ rest)) = .ok rest :=
          skipReason_eq_ok_iff.mpr ⟨phrase, e, hphrase, he, rfl⟩
        rw [List.append_assoc, List.cons_append]
        exact hskip

/-! ## The fields -/

theorem readField_eq_ok_iff {s rest : Bytes} {f : Field} :
    readField s = .ok (f, rest) ↔ ∃ line, FieldLine line f ∧ s = line ++ rest := by
  constructor
  · intro h
    unfold readField at h
    dsimp only at h
    split at h
    · cases h
    · rename_i hname
      split at h
      · cases h
      · rename_i more hmore
        split at h
        · cases h
        · cases h
        · split at h
          · rename_i hend
            cases h
            obtain ⟨e, he, hrest⟩ := lineEnd?_eq_some_iff.mp hend
            refine ⟨_, .mk hname of_mem_takeWhile of_mem_takeWhile he, ?_⟩
            rw [List.append_assoc, List.append_assoc, List.cons_append, ← List.append_assoc,
              List.append_assoc, ← hrest, List.takeWhile_append_dropWhile, ← hmore,
              List.takeWhile_append_dropWhile]
          · cases h
      · cases h
  · rintro ⟨line, hline, rfl⟩
    cases hline with
    | @mk name value e hne hname hvalue he =>
        have hcolon : ∀ b, (0x3A :: (value ++ (e ++ rest))).head? = some b →
            isNameOctet b = false := by
          intro b hb
          cases hb
          decide
        obtain ⟨htake, hdrop⟩ := cut_append hname hcolon
        obtain ⟨htake', hdrop'⟩ := cut_append hvalue (he.head rest)
        have htext : name ++ 0x3A :: value ++ e ++ rest =
            name ++ 0x3A :: (value ++ (e ++ rest)) := by simp
        rw [htext]
        unfold readField
        simp only [htake, hdrop, if_neg hne, htake', hdrop']
        cases he <;> rfl

/-- A field line begins with an octet of a name. -/
theorem FieldLine.head {line : Bytes} {f : Field} (h : FieldLine line f) :
    ∃ b more, line = b :: more ∧ b ≠ 0x0A ∧ b ≠ 0x0D := by
  cases h with
  | @mk name value e hne hname _ _ =>
      obtain ⟨b, more, rfl⟩ := List.exists_cons_of_ne_nil hne
      have hb := hname b List.mem_cons_self
      refine ⟨b, more ++ 0x3A :: value ++ e, by simp, ?_, ?_⟩
      · rintro rfl
        cases hb
      · rintro rfl
        cases hb

theorem lineEnd?_eq_none {b : UInt8} (hfeed : b ≠ 0x0A) (hreturn : b ≠ 0x0D) (s : Bytes) :
    lineEnd? (b :: s) = none := by
  unfold lineEnd?
  split
  · rename_i heq
    exact absurd (List.cons.inj heq).1 hreturn
  · rename_i heq
    exact absurd (List.cons.inj heq).1 hfeed
  · rfl

theorem readFields_end {e : Bytes} (he : LineEnd e) (room : Nat) (rest : Bytes) :
    readFields room (e ++ rest) = .ok ([], rest) := by
  rw [readFields.eq_def]
  cases he <;> rfl

theorem readFields_field {line : Bytes} {f : Field} (hline : FieldLine line f) (room : Nat)
    (s : Bytes) :
    readFields room (line ++ s) =
      match room with
      | 0 => .error .tooLarge
      | room + 1 => (readFields room s).map fun p => (f :: p.1, p.2) := by
  have hread : readField (line ++ s) = .ok (f, s) := readField_eq_ok_iff.mpr ⟨line, hline, rfl⟩
  obtain ⟨b, more, rfl, hfeed, hreturn⟩ := hline.head
  rw [List.cons_append] at hread ⊢
  rw [readFields.eq_def]
  split
  · rename_i heq
    cases heq
  · rename_i heq
    exact absurd (List.cons.inj heq).1 hreturn
  · rename_i c rest _ heq
    obtain ⟨rfl, rfl⟩ := List.cons.inj heq
    rw [lineEnd?_eq_none hfeed hreturn]
    cases room with
    | zero => simp only [hreturn, if_false, hread]
    | succ room => simp only [hreturn, if_false, hread]

/-- What fields are read from, if any are: an empty line, or a field line and
what more there is. -/
theorem readFields_cases {room : Nat} {s rest : Bytes} {fields : Fields}
    (h : readFields room s = .ok (fields, rest)) :
    (∃ e, LineEnd e ∧ fields = [] ∧ s = e ++ rest) ∨
      ∃ line f more, FieldLine line f ∧ s = line ++ more := by
  rw [readFields.eq_def] at h
  split at h
  · cases h
  · cases h
  · split at h
    · rename_i hend
      cases h
      obtain ⟨e, he, hs⟩ := lineEnd?_eq_some_iff.mp hend
      exact Or.inl ⟨e, he, rfl, hs⟩
    · split at h
      · cases h
      · split at h
        · cases h
        · rename_i f more hfield
          obtain ⟨line, hline, hs⟩ := readField_eq_ok_iff.mp hfield
          exact Or.inr ⟨line, f, more, hline, hs⟩

/-- Fields are read exactly from a block of field lines, and no more of them than
there is room for. -/
theorem readFields_eq_ok_iff {room : Nat} {s rest : Bytes} {fields : Fields} :
    readFields room s = .ok (fields, rest) ↔
      ∃ block, FieldBlock block fields ∧ fields.length ≤ room ∧ s = block ++ rest := by
  constructor
  · intro h
    induction room generalizing s fields with
    | zero =>
        rcases readFields_cases h with ⟨e, he, rfl, hs⟩ | ⟨line, f, more, hline, rfl⟩
        · exact ⟨e, .last he, Nat.zero_le _, hs⟩
        · rw [readFields_field hline] at h
          cases h
    | succ room ih =>
        rcases readFields_cases h with ⟨e, he, rfl, hs⟩ | ⟨line, f, more, hline, rfl⟩
        · exact ⟨e, .last he, Nat.zero_le _, hs⟩
        · rw [readFields_field hline] at h
          obtain ⟨⟨tail, last⟩, hmore, heq⟩ := Outcome.map_eq_ok_iff.mp h
          obtain ⟨rfl, rfl⟩ := Prod.mk.inj heq
          obtain ⟨block, hblock, hlength, rfl⟩ := ih hmore
          exact ⟨line ++ block, .field hline hblock, Nat.succ_le_succ hlength, by simp⟩
  · rintro ⟨block, hblock, hlength, rfl⟩
    induction hblock generalizing room with
    | last he => exact readFields_end he room rest
    | @field line s f fields hline _ ih =>
        rw [List.append_assoc, readFields_field hline]
        cases room with
        | zero => cases hlength
        | succ room =>
            show (readFields room (s ++ rest)).map _ = _
            rw [ih (Nat.le_of_succ_le_succ hlength)]
            rfl

/-! ## The whole head -/

/-- A version does not begin like an empty line. -/
theorem skipEmptyLines_version {empty : Bytes} (hempty : EmptyLines empty) (isCurrent : Bool)
    (rest : Bytes) :
    skipEmptyLines (empty ++ (versionText isCurrent ++ rest)) =
      .ok (versionText isCurrent ++ rest) := by
  have hstart : ∃ more, versionText isCurrent ++ rest = 0x48 :: more := by
    cases isCurrent <;> exact ⟨_, rfl⟩
  obtain ⟨more, hmore⟩ := hstart
  exact skipEmptyLines_eq_ok_iff.mpr
    ⟨empty, 0x48, more, hempty, hmore, by decide, by decide, rfl⟩

/-- **A head is read exactly where there is one.** -/
theorem readHead_eq_ok_iff {s rest : Bytes} {head : Head} :
    readHead s = .ok (head, rest) ↔ ∃ text, HeadText text head ∧ s = text ++ rest := by
  constructor
  · intro h
    obtain ⟨s₁, hskip, h⟩ := Outcome.bind_eq_ok_iff.mp h
    obtain ⟨⟨isCurrent, s₂⟩, hversion, h⟩ := Outcome.bind_eq_ok_iff.mp h
    obtain ⟨s₃, hspace, h⟩ := Outcome.bind_eq_ok_iff.mp h
    obtain ⟨⟨n, s₄⟩, hcode, h⟩ := Outcome.bind_eq_ok_iff.mp h
    obtain ⟨s₅, hrest, h⟩ := Outcome.bind_eq_ok_iff.mp h
    obtain ⟨⟨fields, s₆⟩, hfields, h⟩ := Outcome.bind_eq_ok_iff.mp h
    by_cases hlow : n < 100
    · simp only [if_pos hlow] at h
      cases h
    · simp only [if_neg hlow] at h
      cases h
      obtain ⟨empty, -, -, hempty, -, -, -, rfl⟩ := skipEmptyLines_eq_ok_iff.mp hskip
      obtain rfl := readVersion_eq_ok_iff.mp hversion
      obtain rfl := readSpace_eq_ok_iff.mp hspace
      obtain ⟨a, b, c, ha, hb, hc, rfl, rfl⟩ := readCode_eq_ok_iff.mp hcode
      obtain ⟨reason, hreason, rfl⟩ := readReason_eq_ok_iff.mp hrest
      obtain ⟨block, hblock, hlength, rfl⟩ := readFields_eq_ok_iff.mp hfields
      exact ⟨_, .mk hempty ha hb hc (Nat.le_of_not_lt hlow) hreason hblock hlength, by simp⟩
  · rintro ⟨text, htext, rfl⟩
    cases htext with
    | @mk empty reason block isCurrent a b c fields hempty ha hb hc hlow hreason hblock hlength =>
        have htext : empty ++ versionText isCurrent ++ 0x20 :: a :: b :: c :: reason ++ block ++
            rest = empty ++ (versionText isCurrent ++ 0x20 :: a :: b :: c ::
              (reason ++ (block ++ rest))) := by simp
        rw [htext]
        refine Outcome.bind_eq_ok_iff.mpr ⟨_, skipEmptyLines_version hempty isCurrent _, ?_⟩
        refine Outcome.bind_eq_ok_iff.mpr ⟨_, readVersion_eq_ok_iff.mpr rfl, ?_⟩
        refine Outcome.bind_eq_ok_iff.mpr ⟨_, readSpace_eq_ok_iff.mpr rfl, ?_⟩
        refine Outcome.bind_eq_ok_iff.mpr
          ⟨_, readCode_eq_ok_iff.mpr ⟨a, b, c, ha, hb, hc, rfl, rfl⟩, ?_⟩
        refine Outcome.bind_eq_ok_iff.mpr ⟨_, readReason_eq_ok_iff.mpr ⟨_, hreason, rfl⟩, ?_⟩
        refine Outcome.bind_eq_ok_iff.mpr
          ⟨_, readFields_eq_ok_iff.mpr ⟨_, hblock, hlength, rfl⟩, ?_⟩
        simp only [if_neg (Nat.not_lt_of_le hlow)]
        rfl

theorem HeadText.ne_nil {s : Bytes} {head : Head} (h : HeadText s head) : s ≠ [] := by
  cases h
  simp

/-- What is read begins with a head. That is the final one, or the final one is
read after it. -/
theorem readFinalHead_cases {room : Nat} {s rest : Bytes} {head : Head}
    (h : readFinalHead room s = .ok (head, rest)) :
    ∃ text found more, HeadText text found ∧ s = text ++ more ∧
      ((isInformational found.status = false ∧ found = head ∧ more = rest) ∨
        (isInformational found.status = true ∧
          ∃ left, room = left + 1 ∧ readFinalHead left more = .ok (head, rest))) := by
  rw [readFinalHead.eq_def] at h
  split at h
  · cases h
  · rename_i found more hread
    obtain ⟨text, htext, rfl⟩ := readHead_eq_ok_iff.mp hread
    refine ⟨text, found, more, htext, rfl, ?_⟩
    split at h
    · rename_i hinterim
      cases room with
      | zero => cases h
      | succ left => exact Or.inr ⟨hinterim, left, rfl, h⟩
    · rename_i hfinal
      cases h
      exact Or.inl ⟨Bool.eq_false_iff.mpr hfinal, rfl, rfl⟩

/-- **The final head is read exactly where there is one,** as long as there is
room for the heads before it. -/
theorem readFinalHead_eq_ok_iff {room : Nat} {s rest : Bytes} {head : Head}
    (hroom : s.length ≤ room) :
    readFinalHead room s = .ok (head, rest) ↔ ∃ text, FinalHead text head ∧ s = text ++ rest := by
  constructor
  · intro h
    clear hroom
    induction room generalizing s with
    | zero =>
        obtain ⟨text, found, more, htext, rfl, ⟨hfinal, rfl, rfl⟩ | ⟨-, left, hleft, -⟩⟩ :=
          readFinalHead_cases h
        · exact ⟨text, .final htext hfinal, rfl⟩
        · cases hleft
    | succ room ih =>
        obtain ⟨text, found, more, htext, rfl,
          ⟨hfinal, rfl, rfl⟩ | ⟨hinterim, left, hleft, hread⟩⟩ := readFinalHead_cases h
        · exact ⟨text, .final htext hfinal, rfl⟩
        · cases hleft
          obtain ⟨text', hfinal, rfl⟩ := ih hread
          exact ⟨text ++ text', .interim htext hinterim hfinal, by simp⟩
  · rintro ⟨text, htext, rfl⟩
    induction htext generalizing room with
    | @final s head hs hfinal =>
        have hread : readHead (s ++ rest) = .ok (head, rest) :=
          readHead_eq_ok_iff.mpr ⟨s, hs, rfl⟩
        rw [readFinalHead.eq_def, hread]
        simp only [hfinal, Bool.false_eq_true, if_false]
    | @interim s text interim head hs hinterim _ ih =>
        have hread : readHead (s ++ text ++ rest) = .ok (interim, text ++ rest) :=
          readHead_eq_ok_iff.mpr ⟨s, hs, by simp⟩
        have hpos := List.length_pos_iff.mpr hs.ne_nil
        rw [readFinalHead.eq_def, hread]
        simp only [hinterim, if_true]
        cases room with
        | zero =>
            simp only [List.length_append] at hroom
            omega
        | succ room =>
            refine ih ?_
            simp only [List.length_append] at hroom ⊢
            omega

end JobsGateway.Reply
