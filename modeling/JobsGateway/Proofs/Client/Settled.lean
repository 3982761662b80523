import JobsGateway.Proofs.Client.Reply

/-!
# What more octets can change

Whoever reads octets before all of them have come can say for good what they
are, or has to wait for more. What a reader has taken it takes again with more
octets behind, and what it refuses it refuses again, unless the octets only ran
out. So a reply is settled at some point or the client waits for its rest: what
the peer does after its octets counts in the second case alone.
-/

namespace JobsGateway.Reply

/-- What is made of octets stands with more octets behind them: what is left over
is longer, and a fault stays, unless the octets only ran out. -/
structure Stands {α : Type} (longer : α → α) (x x' : Except HeadFault α) : Prop where
  ok : ∀ a, x = .ok a → x' = .ok (longer a)
  error : ∀ e, x = .error e → e ≠ .closed → x' = .error e

/-- What two steps make of octets stands if what each of them makes does. -/
theorem Stands.bind {α β : Type} {longer : α → α} {longer' : β → β} {x x' : Except HeadFault α}
    {f : α → Except HeadFault β} (h : Stands longer x x')
    (hf : ∀ a, Stands longer' (f a) (f (longer a))) : Stands longer' (x >>= f) (x' >>= f) where
  ok b hb := by
    obtain ⟨a, hx, ha⟩ := Outcome.bind_eq_ok_iff.mp hb
    exact Outcome.bind_eq_ok_iff.mpr ⟨longer a, h.ok a hx, (hf a).ok b ha⟩
  error e he hopen := by
    rcases Outcome.bind_eq_error_iff.mp he with hx | ⟨a, hx, ha⟩
    · exact Outcome.bind_eq_error_iff.mpr (Or.inl (h.error e hx hopen))
    · exact Outcome.bind_eq_error_iff.mpr (Or.inr ⟨longer a, h.ok a hx, (hf a).error e ha hopen⟩)

/-! ## Heads -/

section Heads

variable {s : Bytes} {e : HeadFault}

theorem skipEmptyLines_error_append (h : skipEmptyLines s = .error e) (he : e ≠ .closed)
    (more : Bytes) : skipEmptyLines (s ++ more) = .error e := by
  fun_induction skipEmptyLines s with
  | case1 rest ih => exact ih h
  | case2 rest ih => exact ih h
  | case3 => exact absurd (Except.error.inj h).symm he
  | case4 => exact absurd (Except.error.inj h).symm he
  | case5 rest hfeed hend =>
      cases rest with
      | nil => exact absurd rfl hend
      | cons b rest =>
          have hb : b ≠ 0x0A := fun hb => hfeed rest (by rw [hb])
          rw [← h]
          unfold skipEmptyLines
          simp [hb]
  | case6 => cases h

/-- A version is known by its eight octets. Fewer of them are the front of every
version, or of none. -/
theorem readVersion_error_append (h : readVersion s = .error e) (he : e ≠ .closed)
    (more : Bytes) : readVersion (s ++ more) = .error e := by
  have hfront (v : Bytes) (hv : v.length = 8) (htake : v.take 7 = octets "HTTP/1.")
      (hopen : ¬ s.isPrefixOf (octets "HTTP/1.") = true) (hnot : ¬ v.isPrefixOf s = true) :
      ¬ v.isPrefixOf (s ++ more) = true := by
    rw [List.isPrefixOf_iff_prefix] at hopen hnot ⊢
    intro hprefix
    by_cases hlength : v.length ≤ s.length
    · exact hnot (List.prefix_of_prefix_length_le hprefix (List.prefix_append s more) hlength)
    · -- The octets are fewer, so they are the front of this version.
      have hshort : s <+: v :=
        List.prefix_of_prefix_length_le (List.prefix_append s more) hprefix (by omega)
      refine hopen (htake ▸ ?_)
      rw [List.prefix_take_iff]
      exact ⟨hshort, by omega⟩
  unfold readVersion at h ⊢
  split at h
  · cases h
  · rename_i hcurrent
    split at h
    · cases h
    · rename_i hold
      split at h
      · exact absurd (Except.error.inj h).symm he
      · rename_i hopen
        have hclosed : ¬ (s ++ more).isPrefixOf (octets "HTTP/1.") = true := by
          rw [List.isPrefixOf_iff_prefix] at hopen ⊢
          exact fun hprefix => hopen ((List.prefix_append s more).trans hprefix)
        rw [if_neg (hfront _ (by decide) (by decide) hopen hcurrent),
          if_neg (hfront _ (by decide) (by decide) hopen hold), if_neg hclosed]
        exact h

theorem readSpace_error_append (h : readSpace s = .error e) (he : e ≠ .closed)
    (more : Bytes) : readSpace (s ++ more) = .error e := by
  unfold readSpace at h
  split at h
  · exact absurd (Except.error.inj h).symm he
  · cases h
  · rename_i hnil hspace
    cases s with
    | nil => exact absurd rfl hnil
    | cons b rest =>
        have hb : b ≠ 0x20 := fun hb => hspace rest (by rw [hb])
        rw [← h]
        unfold readSpace
        simp [hb]

/-- A code is refused for good if one of its octets is no digit. -/
theorem readCode_eq_status_iff : readCode s = .error .status ↔ (s.take 3).all isDigit = false := by
  match s with
  | [] => simp [readCode]
  | [a] => simp [readCode]
  | [a, b] => simp [readCode]
  | a :: b :: c :: rest => simp [readCode, Bool.and_assoc]

theorem readCode_error_append (h : readCode s = .error e) (he : e ≠ .closed)
    (more : Bytes) : readCode (s ++ more) = .error e := by
  have hstatus : e = .status := by
    unfold readCode at h
    split at h <;> split at h <;> cases h
    · rfl
    · exact absurd rfl he
    · rfl
  subst hstatus
  rw [readCode_eq_status_iff, List.take_append, List.all_append, readCode_eq_status_iff.mp h,
    Bool.false_and]

/-- Octets that end no line and are not the front of an end do not end one with
more behind them. -/
theorem lineEnd?_append (h : lineEnd? s = none) (hnil : s ≠ []) (hend : s ≠ [0x0D])
    (more : Bytes) : lineEnd? (s ++ more) = none := by
  cases s with
  | nil => exact absurd rfl hnil
  | cons b rest =>
      have hfeed : b ≠ 0x0A := by
        rintro rfl
        cases h
      by_cases hreturn : b = 0x0D
      · subst hreturn
        cases rest with
        | nil => exact absurd rfl hend
        | cons c rest =>
            have hc : c ≠ 0x0A := by
              rintro rfl
              cases h
            unfold lineEnd?
            simp [hc]
      · exact lineEnd?_eq_none hfeed hreturn (rest ++ more)

theorem lineEnd?_cons_append {b : UInt8} (h : lineEnd? (b :: s) = none) (hreturn : b ≠ 0x0D)
    (more : Bytes) : lineEnd? (b :: (s ++ more)) = none :=
  lineEnd?_append h (by simp) (fun heq => hreturn (List.cons.inj heq).1) more

/-- A phrase is read on where the line does not end. -/
theorem skipReason_step {b : UInt8} (hline : lineEnd? (b :: s) = none)
    (hend : b = 0x0D → s ≠ []) :
    skipReason (b :: s) = if isFieldOctet b then skipReason s else .error .status := by
  rw [skipReason.eq_def]
  split
  · rename_i heq
    cases heq
  · rename_i heq
    rw [heq] at hline
    cases hline
  · rename_i heq
    obtain ⟨rfl, rfl⟩ := List.cons.inj heq
    exact absurd rfl (hend rfl)
  · rename_i heq
    rw [heq] at hline
    cases hline
  · rename_i heq
    cases heq
    rfl

theorem skipReason_error_append (h : skipReason s = .error e) (he : e ≠ .closed)
    (more : Bytes) : skipReason (s ++ more) = .error e := by
  induction s with
  | nil => exact absurd (Except.error.inj h).symm he
  | cons b rest ih =>
      by_cases hend : b = 0x0D ∧ rest = []
      · obtain ⟨rfl, rfl⟩ := hend
        exact absurd (Except.error.inj h).symm he
      · cases hline : lineEnd? (b :: rest) with
        | some after =>
            obtain ⟨end', hend', heq⟩ := lineEnd?_eq_some_iff.mp hline
            have hok : skipReason (b :: rest) = .ok after :=
              skipReason_eq_ok_iff.mpr ⟨[], end', by simp, hend', heq⟩
            rw [hok] at h
            cases h
        | none =>
            have hmore := lineEnd?_append hline (by simp)
              (fun heq => hend (by simpa using heq)) more
            rw [skipReason_step hline fun hb hrest => hend ⟨hb, hrest⟩] at h
            rw [List.cons_append] at hmore ⊢
            rw [skipReason_step hmore fun hb hrest =>
              hend ⟨hb, (List.append_eq_nil_iff.mp hrest).1⟩]
            split at h
            · rename_i hb
              rw [if_pos hb]
              exact ih h
            · rename_i hb
              rw [if_neg hb]
              exact h

/-- The end of a line is read where nothing else may stand. -/
def readLineEnd (fault : HeadFault) : Bytes → Except HeadFault Bytes
  | [] => .error .closed
  | [0x0D] => .error .closed
  | s => match lineEnd? s with
    | some rest => .ok rest
    | none => .error fault

theorem readLineEnd_of_ne {fault : HeadFault} (hnil : s ≠ []) (hend : s ≠ [0x0D]) :
    readLineEnd fault s = match lineEnd? s with
      | some rest => .ok rest
      | none => .error fault := by
  unfold readLineEnd
  split
  · exact absurd rfl hnil
  · exact absurd rfl hend
  · rfl

theorem readLineEnd_error_append {fault : HeadFault} (h : readLineEnd fault s = .error e)
    (he : e ≠ .closed) (more : Bytes) : readLineEnd fault (s ++ more) = .error e := by
  by_cases hnil : s = []
  · rw [hnil] at h
    exact absurd (Except.error.inj h).symm he
  · by_cases hend : s = [0x0D]
    · rw [hend] at h
      exact absurd (Except.error.inj h).symm he
    · rw [readLineEnd_of_ne hnil hend] at h
      cases hline : lineEnd? s with
      | some rest =>
          rw [hline] at h
          cases h
      | none =>
          have hmore := lineEnd?_append hline hnil hend more
          rw [hline] at h
          rw [readLineEnd_of_ne (by simp [hnil]), hmore]
          · exact h
          · intro heq
            rcases List.append_eq_singleton_iff.mp heq with ⟨hs, -⟩ | ⟨hs, -⟩
            · exact hnil hs
            · exact hend hs

/-- Without a space the line ends behind the code. -/
theorem readReason_of_ne {b : UInt8} (hspace : b ≠ 0x20) :
    readReason (b :: s) = readLineEnd .status (b :: s) := by
  by_cases hend : b :: s = [0x0D]
  · rw [hend]
    rfl
  · rw [readReason.eq_def, readLineEnd_of_ne (by simp) hend]
    split
    · rename_i heq
      cases heq
    · rename_i heq
      exact absurd heq hend
    · rename_i heq
      exact absurd (List.cons.inj heq).1 hspace
    · rfl

theorem readReason_error_append (h : readReason s = .error e) (he : e ≠ .closed)
    (more : Bytes) : readReason (s ++ more) = .error e := by
  cases s with
  | nil => exact absurd (Except.error.inj h).symm he
  | cons b rest =>
      by_cases hspace : b = 0x20
      · subst hspace
        exact skipReason_error_append h he more
      · rw [readReason_of_ne hspace] at h
        rw [List.cons_append, readReason_of_ne hspace]
        exact readLineEnd_error_append h he more

/-- A row of octets of a class that ends before the octets do ends there with more
octets behind. -/
theorem cut_more {p : UInt8 → Bool} {b : UInt8} {after : Bytes}
    (h : s.dropWhile p = b :: after) (more : Bytes) :
    (s ++ more).takeWhile p = s.takeWhile p ∧
      (s ++ more).dropWhile p = b :: (after ++ more) := by
  have hb : p b = false := by
    have hhead := List.head?_dropWhile_not p s
    rw [h] at hhead
    simpa using hhead
  have hs : s ++ more = s.takeWhile p ++ (b :: (after ++ more)) := by
    rw [← List.cons_append, ← h, ← List.append_assoc, List.takeWhile_append_dropWhile]
  rw [hs]
  exact cut_append of_mem_takeWhile fun c hc => by
    cases hc
    exact hb

/-- Behind its colon a field has a value, and the line ends. -/
theorem readField_of_colon {rest : Bytes} (hfront : s.takeWhile isNameOctet ≠ [])
    (hname : s.dropWhile isNameOctet = 0x3A :: rest) :
    readField s = (readLineEnd .fieldValue (rest.dropWhile isFieldOctet)).map fun next =>
      (.of (charsOf (s.takeWhile isNameOctet)) (trimBlanks (rest.takeWhile isFieldOctet)),
        next) := by
  unfold readField
  dsimp only
  rw [if_neg hfront, hname]
  split
  · rename_i heq
    cases heq
  · rename_i heq
    cases heq
    generalize rest.dropWhile isFieldOctet = after
    split
    · rfl
    · rfl
    · rename_i hnil hend
      rw [readLineEnd_of_ne hnil hend]
      cases lineEnd? after <;> rfl
  · rename_i hother
    exact absurd rfl (hother rest)

/-- A line is no field if it has no name, or none with a colon behind it. -/
theorem readField_of_no_colon {b : UInt8} {rest : Bytes}
    (hname : s.dropWhile isNameOctet = b :: rest)
    (h : s.takeWhile isNameOctet = [] ∨ b ≠ 0x3A) : readField s = .error .fieldName := by
  unfold readField
  dsimp only
  split
  · rfl
  · rename_i hfront
    have hb := h.resolve_left hfront
    rw [hname]
    split
    · rename_i heq
      cases heq
    · rename_i heq
      exact absurd (List.cons.inj heq).1 hb
    · rfl

theorem readField_error_append (h : readField s = .error e) (he : e ≠ .closed)
    (hnil : s ≠ []) (more : Bytes) : readField (s ++ more) = .error e := by
  cases hname : s.dropWhile isNameOctet with
  | nil =>
      -- All that has come is a name.
      have hall : s.takeWhile isNameOctet = s := by
        have hs := List.takeWhile_append_dropWhile (p := isNameOctet) (l := s)
        rwa [hname, List.append_nil] at hs
      unfold readField at h
      dsimp only at h
      rw [hall, if_neg hnil, hname] at h
      exact absurd (Except.error.inj h).symm he
  | cons b rest =>
      obtain ⟨hfront', hname'⟩ := cut_more hname more
      by_cases hcolon : s.takeWhile isNameOctet = [] ∨ b ≠ 0x3A
      · rw [readField_of_no_colon hname hcolon] at h
        rw [readField_of_no_colon hname' (hfront' ▸ hcolon)]
        exact h
      · obtain ⟨hfront, hb⟩ := not_or.mp hcolon
        obtain rfl := Decidable.not_not.mp hb
        rw [readField_of_colon hfront hname] at h
        rw [readField_of_colon (hfront' ▸ hfront) hname']
        cases hvalue : rest.dropWhile isFieldOctet with
        | nil =>
            rw [hvalue] at h
            exact absurd (Except.error.inj h).symm he
        | cons c after =>
            obtain ⟨-, hvalue'⟩ := cut_more hvalue more
            rw [hvalue, Outcome.map_eq_error_iff] at h
            rw [hvalue', ← List.cons_append, Outcome.map_eq_error_iff]
            exact readLineEnd_error_append h he more

/-- A field line that is read is read with more octets behind. -/
theorem readField_ok_append {f : Field} {rest : Bytes} (h : readField s = .ok (f, rest))
    (more : Bytes) : readField (s ++ more) = .ok (f, rest ++ more) := by
  obtain ⟨line, hline, rfl⟩ := readField_eq_ok_iff.mp h
  exact readField_eq_ok_iff.mpr ⟨line, hline, List.append_assoc ..⟩

/-- A line that is not empty is read as a field, if there is room for it. -/
theorem readFields_of_line {b : UInt8} (hline : lineEnd? (b :: s) = none) (hreturn : b ≠ 0x0D)
    (room : Nat) :
    readFields room (b :: s) = match readField (b :: s) with
      | .error e => .error e
      | .ok (f, rest) =>
        match room with
        | 0 => .error .tooLarge
        | room + 1 => (readFields room rest).map fun p => (f :: p.1, p.2) := by
  rw [readFields.eq_def]
  split
  · rename_i heq
    cases heq
  · rename_i heq
    exact absurd (List.cons.inj heq).1 hreturn
  · rename_i heq
    obtain ⟨rfl, rfl⟩ := List.cons.inj heq
    rw [hline]
    exact if_neg hreturn

theorem readFields_of_return {c : UInt8} (hc : c ≠ 0x0A) (room : Nat) :
    readFields room (0x0D :: c :: s) = .error .newLine := by
  have hline : lineEnd? (0x0D :: c :: s) = none := by
    unfold lineEnd?
    simp [hc]
  rw [readFields.eq_def]
  split
  · rename_i heq
    cases heq
  · rename_i heq
    cases heq
  · rename_i heq
    cases heq
    rw [hline]
    rfl

theorem readFields_error_append {room : Nat} (h : readFields room s = .error e)
    (he : e ≠ .closed) (more : Bytes) : readFields room (s ++ more) = .error e := by
  fun_induction readFields room s with
  | case1 => exact absurd (Except.error.inj h).symm he
  | case2 => exact absurd (Except.error.inj h).symm he
  | case3 room b tail hend rest hline =>
      rw [hline] at h
      cases h
  | case4 room tail hend hline =>
      cases tail with
      | nil => exact absurd rfl (hend rfl)
      | cons c tail =>
          have hc : c ≠ 0x0A := by
            rintro rfl
            cases hline
          rw [hline] at h
          cases h
          exact readFields_of_return hc room
  | case5 room b tail hend hreturn fault hline hfield =>
      have hmore := lineEnd?_cons_append hline hreturn more
      rw [hline, hfield, if_neg hreturn] at h
      cases h
      rw [List.cons_append, readFields_of_line hmore hreturn, ← List.cons_append,
        readField_error_append hfield he (by simp)]
  | case6 b tail hend hreturn f rest hline hfield =>
      have hmore := lineEnd?_cons_append hline hreturn more
      rw [hline, hfield, if_neg hreturn] at h
      rw [List.cons_append, readFields_of_line hmore hreturn, ← List.cons_append,
        readField_ok_append hfield]
      exact h
  | case7 b tail hend hreturn f rest room hline hfield ih =>
      have hmore := lineEnd?_cons_append hline hreturn more
      rw [hline, hfield, if_neg hreturn] at h
      rw [List.cons_append, readFields_of_line hmore hreturn, ← List.cons_append,
        readField_ok_append hfield]
      dsimp only at h ⊢
      rw [Outcome.map_eq_error_iff] at h ⊢
      exact ih h

end Heads

section Steps

variable (s more : Bytes)

theorem stands_skipEmptyLines :
    Stands (· ++ more) (skipEmptyLines s) (skipEmptyLines (s ++ more)) where
  ok rest h := by
    obtain ⟨empty, b, tail, hempty, rfl, hfeed, hreturn, rfl⟩ := skipEmptyLines_eq_ok_iff.mp h
    exact skipEmptyLines_eq_ok_iff.mpr
      ⟨empty, b, tail ++ more, hempty, rfl, hfeed, hreturn, List.append_assoc ..⟩
  error e h he := skipEmptyLines_error_append h he more

theorem stands_readVersion :
    Stands (fun p => (p.1, p.2 ++ more)) (readVersion s) (readVersion (s ++ more)) where
  ok p h := by
    rw [readVersion_eq_ok_iff.mp h, List.append_assoc]
    exact readVersion_eq_ok_iff.mpr rfl
  error e h he := readVersion_error_append h he more

theorem stands_readSpace : Stands (· ++ more) (readSpace s) (readSpace (s ++ more)) where
  ok rest h := by
    rw [readSpace_eq_ok_iff.mp h]
    rfl
  error e h he := readSpace_error_append h he more

theorem stands_readCode :
    Stands (fun p => (p.1, p.2 ++ more)) (readCode s) (readCode (s ++ more)) where
  ok p h := by
    obtain ⟨a, b, c, ha, hb, hc, hn, rfl⟩ := readCode_eq_ok_iff.mp h
    exact readCode_eq_ok_iff.mpr ⟨a, b, c, ha, hb, hc, hn, rfl⟩
  error e h he := readCode_error_append h he more

theorem stands_readReason : Stands (· ++ more) (readReason s) (readReason (s ++ more)) where
  ok rest h := by
    obtain ⟨reason, hreason, rfl⟩ := readReason_eq_ok_iff.mp h
    exact readReason_eq_ok_iff.mpr ⟨reason, hreason, List.append_assoc ..⟩
  error e h he := readReason_error_append h he more

theorem stands_readFields (room : Nat) :
    Stands (fun p => (p.1, p.2 ++ more)) (readFields room s) (readFields room (s ++ more)) where
  ok p h := by
    obtain ⟨block, hblock, hroom, rfl⟩ := readFields_eq_ok_iff.mp h
    exact readFields_eq_ok_iff.mpr ⟨block, hblock, hroom, List.append_assoc ..⟩
  error e h he := readFields_error_append h he more

theorem stands_readHead :
    Stands (fun p => (p.1, p.2 ++ more)) (readHead s) (readHead (s ++ more)) := by
  refine (stands_skipEmptyLines s more).bind fun s => ?_
  refine (stands_readVersion s more).bind fun (current, s) => ?_
  refine (stands_readSpace s more).bind fun s => ?_
  refine (stands_readCode s more).bind fun (code, s) => ?_
  refine (stands_readReason s more).bind fun s => ?_
  refine (stands_readFields s more fieldLimit).bind fun (fields, s) => ?_
  dsimp only
  split
  · exact ⟨fun a h => (by cases h), fun e h _ => h⟩
  · refine ⟨fun a h => ?_, fun e h => (by cases h)⟩
    cases h
    rfl

/-- A head that cannot be final is refused whatever follows, and however many
heads there is room for. -/
theorem readFinalHead_error_append {s : Bytes} {room room' : Nat} {e : HeadFault}
    (h : readFinalHead room s = .error e) (he : e ≠ .closed) (hroom : room ≤ room')
    (more : Bytes) : readFinalHead room' (s ++ more) = .error e := by
  fun_induction readFinalHead room s generalizing room' with
  | case1 room s fault hhead =>
      cases h
      rw [readFinalHead.eq_def, (stands_readHead s more).error e hhead he]
  | case2 => exact absurd (Except.error.inj h).symm he
  | case3 s head rest hhead hinterim room ih =>
      obtain ⟨room', rfl⟩ := Nat.exists_eq_succ_of_ne_zero (n := room') (by omega)
      rw [readFinalHead.eq_def, (stands_readHead s more).ok _ hhead]
      dsimp only
      rw [if_pos hinterim]
      exact ih h (by omega)
  | case4 => cases h

end Steps

/-- How the body is framed is no matter of octets that ran out. -/
theorem framing_ne_closed (method : Text) (head : Head) : framing method head ≠ .error .closed := by
  unfold framing
  intro h
  repeat' split at h
  all_goals cases h

/-! ## Bodies -/

section Bodies

variable {s : Bytes} {e : BodyFault}

/-- The octets ran out before the body ended. -/
def RanOut (e : BodyFault) : Prop :=
  e = .endOfBody ∨ e = .endInChunkLine

/-- What came of octets did not come of their running out. -/
def Settles {α : Type} (x : Except BodyFault α) : Prop :=
  ∀ e, x = .error e → ¬ RanOut e

theorem Settles.of_map {α β : Type} {f : α → β} {x : Except BodyFault α}
    (h : Settles (x.map f)) : Settles x :=
  fun e hx => h e (Outcome.map_eq_error_iff.mpr hx)

theorem cutTrailer_append {room lines : Nat} {state : TrailerState}
    (h : Settles (cutTrailer room lines state s)) (more : Bytes) :
    cutTrailer room lines state (s ++ more) = cutTrailer room lines state s := by
  induction s generalizing room lines state with
  | nil => exact absurd (Or.inr rfl) (h _ rfl)
  | cons b rest ih =>
      rw [cutTrailer] at h
      rw [List.cons_append, cutTrailer, cutTrailer]
      cases hstep : trailerStep lines state b with
      | error e => rfl
      | ok next =>
          simp only [hstep] at h ⊢
          by_cases hroom : room ≤ 1
          · rw [if_pos hroom, if_pos hroom]
          · rw [if_neg hroom] at h
            rw [if_neg hroom, if_neg hroom]
            cases next with
            | none => rfl
            | some p => exact congrArg (Except.map _) (ih h.of_map)

theorem readTrailer_append (h : Settles (readTrailer s)) (more : Bytes) :
    readTrailer (s ++ more) = readTrailer s := by
  have hcut : Settles (cutTrailer trailerLimit 0 .lineStart s) :=
    fun e he => h e (Outcome.bind_eq_error_iff.mpr (Or.inl he))
  rw [readTrailer, cutTrailer_append hcut, readTrailer]

theorem ranOut_endFault (state : ChunkState) : RanOut state.endFault := by
  cases state <;> simp [RanOut, ChunkState.endFault]

theorem readChunks_append {room : Nat} {state : ChunkState}
    (h : Settles (readChunks room state s)) (more : Bytes) :
    readChunks room state (s ++ more) = readChunks room state s := by
  induction s generalizing room state with
  | nil => exact absurd (ranOut_endFault state) (h _ rfl)
  | cons b rest ih =>
      rw [readChunks] at h
      rw [List.cons_append, readChunks, readChunks]
      cases hstep : chunkStep room state b with
      | error e => rfl
      | ok next =>
          simp only [hstep] at h ⊢
          cases next with
          | none => exact congrArg (Except.map _) (readTrailer_append h.of_map more)
          | some next => exact congrArg (Except.map _) (ih h.of_map)

/-! No octet tells that the time has run out. -/

theorem cutTrailer_ne_late {room lines : Nat} {state : TrailerState} :
    cutTrailer room lines state s ≠ .error .late := by
  induction s generalizing room lines state with
  | nil => simp [cutTrailer]
  | cons b rest ih =>
      have hstep : trailerStep lines state b ≠ .error .late := by
        intro h
        unfold trailerStep at h
        repeat' split at h
        all_goals cases h
      intro h
      unfold cutTrailer at h
      split at h
      · rename_i hfault
        cases h
        exact hstep hfault
      · split at h
        · cases h
        · split at h
          · cases h
          · exact ih (Outcome.map_eq_error_iff.mp h)

theorem readTrailer_ne_late : readTrailer s ≠ .error .late := by
  intro h
  rcases Outcome.bind_eq_error_iff.mp h with h | ⟨⟨text, lines⟩, -, h⟩
  · exact cutTrailer_ne_late h
  · dsimp only at h
    split at h
    · cases h
    · rcases Outcome.bind_eq_error_iff.mp h with h | ⟨p, -, h⟩
      · obtain ⟨fault, -, hfault⟩ := Outcome.mapError_eq_error_iff.mp h
        cases hfault
      · cases h

theorem readChunks_ne_late {room : Nat} {state : ChunkState} :
    readChunks room state s ≠ .error .late := by
  induction s generalizing room state with
  | nil => cases state <;> simp [readChunks, ChunkState.endFault]
  | cons b rest ih =>
      have hstep : chunkStep room state b ≠ .error .late := by
        intro h
        unfold chunkStep afterSize at h
        repeat' split at h
        all_goals cases h
      intro h
      unfold readChunks at h
      split at h
      · rename_i hfault
        cases h
        exact hstep hfault
      · exact readTrailer_ne_late (Outcome.map_eq_error_iff.mp h)
      · exact ih (Outcome.map_eq_error_iff.mp h)

theorem bodyFault_of_not_ranOut (he : ¬ RanOut e) (parting : Parting) :
    parting.bodyFault e = e := by
  cases e with
  | endOfBody => exact absurd (Or.inl rfl) he
  | endInChunkLine => exact absurd (Or.inr rfl) he
  | _ => rfl

/-- A body is settled, or the client waits for its rest. -/
theorem readBody_settled_or_waits (f : Framing) (s : Bytes) :
    (∃ x, x ≠ .error .late ∧ ∀ more parting, readBody parting f (s ++ more) = x) ∨
      readBody .stalls f s = .error .late := by
  cases f with
  | none => exact Or.inl ⟨.ok [], by simp, fun _ _ => rfl⟩
  | length n =>
      by_cases hshort : s.length < n
      · exact Or.inr (if_pos hshort)
      · refine Or.inl ⟨.ok (s.take n), by simp, fun more parting => ?_⟩
        rw [readBody, if_neg (by simp; omega), List.take_append_of_le_length (by omega)]
  | chunked =>
      by_cases hs : Settles (readChunks extensionLimit .start s)
      · refine Or.inl ⟨readChunks extensionLimit .start s, readChunks_ne_late,
          fun more parting => ?_⟩
        rw [readBody, readChunks_append hs]
        cases hread : readChunks extensionLimit .start s with
        | ok body => rfl
        | error e => exact congrArg Except.error (bodyFault_of_not_ranOut (hs e hread) parting)
      · obtain ⟨e, hread, he⟩ : ∃ e, readChunks extensionLimit .start s = .error e ∧ RanOut e := by
          simpa [Settles] using hs
        refine Or.inr ?_
        rw [readBody, hread]
        rcases he with rfl | rfl <;> rfl
  | untilClose => exact Or.inr rfl

/-- A body is late only if its peer stalls. -/
theorem stalls_of_readBody_late {parting : Parting} {f : Framing}
    (h : readBody parting f s = .error .late) : parting = .stalls := by
  have hfault (fault : BodyFault) (hne : fault ≠ .late) (h : parting.bodyFault fault = .late) :
      parting = .stalls := by
    by_cases hout : RanOut fault
    · cases parting with
      | stalls => rfl
      | _ => rcases hout with rfl | rfl <;> cases h
    · exact absurd ((bodyFault_of_not_ranOut hout parting).symm.trans h) hne
  unfold readBody at h
  split at h
  · cases h
  · split at h
    · exact hfault _ (by simp) (Except.error.inj h)
    · cases h
  · obtain ⟨fault, hread, hlate⟩ := Outcome.mapError_eq_error_iff.mp h
    refine hfault fault ?_ hlate
    rintro rfl
    exact readChunks_ne_late hread
  · split at h
    · cases h
    · exact hfault _ (by simp) (Except.error.inj h)

end Bodies

/-! ## Replies -/

/-- The client waits for the rest of a reply: its head has not ended, or its body
has not. -/
def Waits (x : Except HeadFault Reply) : Prop :=
  x = .error .closed ∨ ∃ reply, x = .ok reply ∧ reply.body = .error .late

/-- **A reply is settled, or the client waits for its rest.** If it is settled,
neither further octets nor the way that the peer leaves off change it. -/
theorem settled_or_waits (method : Text) (s : Bytes) :
    (∃ x, ¬ Waits x ∧ ∀ more parting, read parting method (s ++ more) = x) ∨
      Waits (read .stalls method s) := by
  have hsettled {e : HeadFault} (he : e ≠ .closed) : ¬ Waits (.error e) := by
    rintro (heq | ⟨reply, heq, -⟩)
    · exact he (Except.error.inj heq)
    · cases heq
  cases hhead : readFinalHead s.length s with
  | error e =>
      by_cases he : e = .closed
      · subst he
        exact Or.inr (Or.inl (Outcome.bind_eq_error_iff.mpr (Or.inl hhead)))
      · refine Or.inl ⟨.error e, hsettled he, fun more parting => ?_⟩
        have hroom : s.length ≤ (s ++ more).length := by simp
        have hmore := readFinalHead_error_append hhead he hroom more
        exact Outcome.bind_eq_error_iff.mpr (Or.inl hmore)
  | ok p =>
      obtain ⟨head, rest⟩ := p
      obtain ⟨text, htext, rfl⟩ := (readFinalHead_eq_ok_iff (Nat.le_refl _)).mp hhead
      have hmore (more : Bytes) :
          readFinalHead (text ++ rest ++ more).length (text ++ rest ++ more) =
            .ok (head, rest ++ more) :=
        (readFinalHead_eq_ok_iff (Nat.le_refl _)).mpr ⟨text, htext, List.append_assoc ..⟩
      cases hframing : framing method head with
      | error e =>
          have he : e ≠ .closed := by
            rintro rfl
            exact framing_ne_closed method head hframing
          refine Or.inl ⟨.error e, hsettled he, fun more parting => ?_⟩
          exact Outcome.bind_eq_error_iff.mpr (Or.inr ⟨_, hmore more,
            Outcome.bind_eq_error_iff.mpr (Or.inl hframing)⟩)
      | ok f =>
          have hread (parting : Parting) (more : Bytes) :
              read parting method (text ++ rest ++ more) =
                .ok ⟨head.status, head.fields, readBody parting f (rest ++ more)⟩ :=
            Outcome.bind_eq_ok_iff.mpr ⟨_, hmore more, Outcome.bind_eq_ok_iff.mpr
              ⟨f, hframing, rfl⟩⟩
          rcases readBody_settled_or_waits f rest with ⟨x, hx, hbody⟩ | hwaits
          · refine Or.inl ⟨.ok ⟨head.status, head.fields, x⟩, ?_, fun more parting => ?_⟩
            · rintro (heq | ⟨reply, heq, hlate⟩)
              · cases heq
              · cases heq
                exact hx hlate
            · rw [hread, hbody]
          · have hnow := hread .stalls []
            rw [List.append_nil, List.append_nil] at hnow
            exact Or.inr (Or.inr ⟨_, hnow, hwaits⟩)

end JobsGateway.Reply
