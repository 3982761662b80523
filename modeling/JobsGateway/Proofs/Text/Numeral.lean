import JobsGateway.Proofs.Text.Decimal
import JobsGateway.Proofs.Text.Split
import JobsGateway.Proofs.Text.Utf8
import JobsGateway.Text.Blank

/-!
# Numbers as they may be written

A number may be written with a plus sign, with zeros in front and with blanks
around it. Which number a text spells is said here without the reader, digit by
digit. The reader then finds a number exactly where one is spelt, and if it fits.
-/

namespace JobsGateway.Text

/-- A plus sign or none, and one or more decimal digits, which come to the
number. -/
def IsNumeral (text : Text) (n : Nat) : Prop :=
  ∃ sign row, text = sign ++ row ∧ (sign = [] ∨ sign = ['+']) ∧ row ≠ [] ∧
    (∀ c ∈ row, c.isDigit = true) ∧ Nat.ofDigitChars 10 row 0 = n

/-- A numeral, perhaps with blanks around it. -/
def Spells (text : Text) (n : Nat) : Prop :=
  ∃ before numeral after, text = before ++ numeral ++ after ∧ IsNumeral numeral n ∧
    (∀ c ∈ before, isBlank c = true) ∧ ∀ c ∈ after, isBlank c = true

/-! ## Digits -/

/-- In base ten, the digits are those of ASCII. -/
theorem digitIn?_ten (c : Char) :
    digitIn? 10 c = if c.isDigit = true then some (c.toNat - '0'.toNat) else none := by
  by_cases hlt : c.toNat < 0x80
  · exact forall_ascii (P := fun c =>
      digitIn? 10 c = if c.isDigit = true then some (c.toNat - '0'.toNat) else none)
      (by decide) hlt
  · have hdigit : c.isDigit ≠ true := fun h => hlt (lt_of_isDigit h)
    have hle (d : Char) (hd : d.toNat < 0x80) : ¬ c ≤ d := by
      intro h
      have hval : c.toNat ≤ d.toNat := h
      omega
    rw [if_neg hdigit, digitIn?, digitValue?]
    simp [hle '9' (by decide), hle 'z' (by decide), hle 'Z' (by decide)]

/-- Digits are read one after the other, and nothing else is. -/
theorem naturalFrom?_ten_iff {value : Nat} {text : Text} {n : Nat} :
    naturalFrom? 10 value text = some n ↔
      (∀ c ∈ text, c.isDigit = true) ∧ Nat.ofDigitChars 10 text value = n := by
  induction text generalizing value with
  | nil => simp [naturalFrom?, Nat.ofDigitChars]
  | cons c text ih =>
      rw [naturalFrom?, digitIn?_ten, List.forall_mem_cons, Nat.ofDigitChars_cons]
      by_cases hc : c.isDigit = true
      · rw [if_pos hc, Option.bind_some, ih, and_iff_right hc, Nat.mul_comm 10 value]
      · rw [if_neg hc, Option.bind_none]
        simp [hc]

theorem natural?_ten_iff {text : Text} {n : Nat} :
    natural? 10 text = some n ↔
      text ≠ [] ∧ (∀ c ∈ text, c.isDigit = true) ∧ Nat.ofDigitChars 10 text 0 = n := by
  cases text with
  | nil => simp [natural?]
  | cons c text =>
      rw [natural?, naturalFrom?_ten_iff, and_iff_right (List.cons_ne_nil c text)]

/-! ## Numerals -/

theorem isNumeral_plus_iff {text : Text} {n : Nat} :
    IsNumeral ('+' :: text) n ↔ natural? 10 text = some n := by
  rw [natural?_ten_iff]
  constructor
  · rintro ⟨sign, row, heq, rfl | rfl, hne, hdigits, hvalue⟩
    · -- A plus sign is no digit, so it is not part of the row.
      rw [List.nil_append] at heq
      subst heq
      exact absurd (hdigits '+' List.mem_cons_self) (by decide)
    · rw [List.singleton_append, List.cons.injEq] at heq
      obtain ⟨-, rfl⟩ := heq
      exact ⟨hne, hdigits, hvalue⟩
  · rintro ⟨hne, hdigits, hvalue⟩
    exact ⟨['+'], text, rfl, Or.inr rfl, hne, hdigits, hvalue⟩

theorem isNumeral_unsigned_iff {text : Text} (h : ∀ rest, text ≠ '+' :: rest) {n : Nat} :
    IsNumeral text n ↔ natural? 10 text = some n := by
  rw [natural?_ten_iff]
  constructor
  · rintro ⟨sign, row, rfl, rfl | rfl, hne, hdigits, hvalue⟩
    · exact ⟨hne, hdigits, hvalue⟩
    · exact absurd rfl (h row)
  · rintro ⟨hne, hdigits, hvalue⟩
    exact ⟨[], text, rfl, Or.inl rfl, hne, hdigits, hvalue⟩

/-- **A numeral is read as its number, if that fits, and nothing else is read.** -/
theorem unsigned?_eq_some_iff {text : Text} {n : Nat} :
    unsigned? text = some n ↔ IsNumeral text n ∧ n < word := by
  unfold unsigned?
  split
  · rw [isNumeral_plus_iff]
    simp [Option.filter_eq_some_iff]
  · rename_i hplus
    rw [isNumeral_unsigned_iff hplus]
    simp [Option.filter_eq_some_iff]

theorem IsNumeral.unique {text : Text} {m n : Nat} (hm : IsNumeral text m)
    (hn : IsNumeral text n) : m = n := by
  by_cases hplus : ∃ rest, text = '+' :: rest
  · obtain ⟨rest, rfl⟩ := hplus
    rw [isNumeral_plus_iff] at hm hn
    exact Option.some.inj (hm.symm.trans hn)
  · rw [isNumeral_unsigned_iff fun rest h => hplus ⟨rest, h⟩] at hm hn
    exact Option.some.inj (hm.symm.trans hn)

theorem isNumeral_digits (n : Nat) : IsNumeral (digits n) n :=
  ⟨[], digits n, rfl, Or.inl rfl, digits_ne_nil n, fun _ hc => isDigit_of_mem_digits hc,
    Nat.ofDigitChars_toDigits (by omega) (by omega)⟩

/-! ## Blanks around a text -/

/-- What is trimmed off a text stood around what is left. -/
theorem exists_around_trimWhile (p : Char → Bool) (text : Text) :
    ∃ before after, text = before ++ trimWhile p text ++ after ∧ (∀ c ∈ before, p c = true) ∧
      ∀ c ∈ after, p c = true := by
  refine ⟨text.takeWhile p, (text.dropWhile p).rtakeWhile p, ?_, ?_, ?_⟩
  · show text = text.takeWhile p ++ (text.dropWhile p).rdropWhile p ++ _
    rw [List.append_assoc, List.rdropWhile_append_rtakeWhile, List.takeWhile_append_dropWhile]
  · exact fun c hc => List.mem_takeWhile_imp hc
  · exact fun c hc => List.mem_rtakeWhile_imp hc

/-- What stands around a text is trimmed off it. -/
theorem trimWhile_around {p : Char → Bool} {before text after : Text}
    (hbefore : ∀ c ∈ before, p c = true) (htext : ∀ c ∈ text, p c = false)
    (hafter : ∀ c ∈ after, p c = true) : trimWhile p (before ++ text ++ after) = text := by
  have hafter' : ∀ c ∈ after.reverse, p c = true := fun c hc => hafter c (List.mem_reverse.mp hc)
  have htext' : text.reverse.dropWhile p = text.reverse :=
    dropWhile_eq_self_of_head fun c hc => htext c (List.mem_reverse.mp (List.mem_of_head? hc))
  have hend : (text ++ after).rdropWhile p = text := by
    rw [List.rdropWhile, List.reverse_append, List.dropWhile_append_of_pos hafter', htext',
      List.reverse_reverse]
  show ((before ++ text ++ after).dropWhile p).rdropWhile p = text
  rw [List.append_assoc, List.dropWhile_append_of_pos hbefore]
  cases text with
  | nil =>
      rw [List.nil_append, List.dropWhile_eq_nil_iff.mpr hafter]
      rfl
  | cons c rest =>
      rw [List.cons_append, List.dropWhile_cons_of_neg (by simp [htext c List.mem_cons_self])]
      exact hend

/-- A numeral holds no blank. -/
theorem IsNumeral.not_blank {text : Text} {n : Nat} (h : IsNumeral text n) :
    ∀ c ∈ text, isBlank c = false := by
  obtain ⟨sign, row, rfl, hsign, -, hdigits, -⟩ := h
  intro c hc
  rcases List.mem_append.mp hc with hc | hc
  · rcases hsign with rfl | rfl
    · cases hc
    · rw [List.mem_singleton.mp hc]
      decide
  · exact forall_ascii (P := fun c => c.isDigit = true → isBlank c = false) (by decide)
      (lt_of_isDigit (hdigits c hc)) (hdigits c hc)

/-- A text spells what it spells without the blanks around it. -/
theorem spells_iff {text : Text} {n : Nat} : Spells text n ↔ IsNumeral (trim text) n := by
  constructor
  · rintro ⟨before, numeral, after, rfl, hnumeral, hbefore, hafter⟩
    rwa [trim, trimWhile_around hbefore hnumeral.not_blank hafter]
  · intro h
    obtain ⟨before, after, htext, hbefore, hafter⟩ := exists_around_trimWhile isBlank text
    exact ⟨before, trim text, after, htext, h, hbefore, hafter⟩

/-- A text spells one number at most. -/
theorem Spells.unique {text : Text} {m n : Nat} (hm : Spells text m) (hn : Spells text n) :
    m = n :=
  (spells_iff.mp hm).unique (spells_iff.mp hn)

end JobsGateway.Text
