import JobsGateway.Proofs.Text.Decimal
import JobsGateway.Proofs.Text.Utf8
import JobsGateway.Proofs.Yaml.Scalar
import JobsGateway.Yaml.Found

/-!
# Whole numbers in one line

A whole number in decimal is a plain scalar. It is read as a natural number
exactly if it is one and below the bound: nothing is cut off or wrapped around.
-/

namespace JobsGateway.Yaml

/-- A text of characters that mean nothing to a plain scalar. -/
theorem Plain.goesOn_of_forall {ends : Bool} {text : Text}
    (h : ∀ c ∈ text, isBlank c = false ∧ isBreak c = false ∧ c ≠ '\ufeff' ∧ c ≠ ':') :
    goesOn ends false text = true := by
  induction text with
  | nil => rfl
  | cons c text ih =>
      obtain ⟨hblank, hbreak, hmark, hcolon⟩ := h c List.mem_cons_self
      rw [goesOn, hblank, ih fun d hd => h d (List.mem_cons_of_mem c hd)]
      simp [hbreak, hmark, hcolon]

theorem plain_of_isDigit {c : Char} (h : c.isDigit = true) :
    isBlank c = false ∧ isBreak c = false ∧ c ≠ '\ufeff' ∧ c ≠ ':' :=
  Text.forall_ascii (P := fun c => c.isDigit = true →
    isBlank c = false ∧ isBreak c = false ∧ c ≠ '\ufeff' ∧ c ≠ ':') (by decide)
    (Text.lt_of_isDigit h) h

theorem begins_of_isDigit {c : Char} (h : c.isDigit = true) (rest : Text) :
    Plain.begins true c rest = true := by
  have hmarks : (c == '-' || c == '?' || c == ':') = false ∧
      ",[]\x7b\x7d#&*!|>'\"%@`".toList.contains c = false :=
    Text.forall_ascii (P := fun c => c.isDigit = true →
      (c == '-' || c == '?' || c == ':') = false ∧
        ",[]\x7b\x7d#&*!|>'\"%@`".toList.contains c = false) (by decide) (Text.lt_of_isDigit h) h
  rw [Plain.begins, hmarks.1, hmarks.2, (plain_of_isDigit h).1]
  rfl

theorem isAllowed_of_isDigit {c : Char} (h : c.isDigit = true) : isAllowed c = true :=
  Text.forall_ascii (P := fun c => c.isDigit = true → isAllowed c = true) (by decide)
    (Text.lt_of_isDigit h) h

/-- The digits of a number go on to the end of the line. -/
theorem goesOn_digits (n : Nat) : Plain.goesOn true false (Text.digits n) = true :=
  Plain.goesOn_of_forall fun _ hc => plain_of_isDigit (Text.isDigit_of_mem_digits hc)

theorem isLine_integerText (n : Int) : Plain.isLine true (integerText n) = true := by
  obtain ⟨c, rest, hdigits⟩ := List.exists_cons_of_ne_nil (Text.digits_ne_nil n.natAbs)
  have hdigit : c.isDigit = true := Text.isDigit_of_mem_digits (hdigits ▸ List.mem_cons_self)
  have hgoes := goesOn_digits n.natAbs
  rw [hdigits] at hgoes
  rw [integerText, hdigits]
  split
  · obtain ⟨hblank, hbreak, -⟩ := plain_of_isDigit hdigit
    have hsign : Plain.goesOn true false ('-' :: c :: rest) =
        Plain.goesOn true false (c :: rest) := by
      rw [Plain.goesOn]
      simp [(by decide : isBlank '-' = false), (by decide : isBreak '-' = false)]
    show (Plain.begins true '-' (c :: rest) && Plain.goesOn true false ('-' :: c :: rest)) = true
    rw [hsign, hgoes]
    simp [Plain.begins, Plain.endsWord, isBlankOrEnd, hblank, hbreak]
  · show (Plain.begins true c rest && Plain.goesOn true false (c :: rest)) = true
    rw [begins_of_isDigit hdigit, hgoes]
    rfl

theorem allowed_integerText (n : Int) : ∀ c ∈ integerText n, isAllowed c = true := by
  intro c hc
  rcases List.mem_append.mp hc with hc | hc
  · split at hc
    · rw [List.mem_singleton.mp hc]
      decide
    · cases hc
  · exact isAllowed_of_isDigit (Text.isDigit_of_mem_digits hc)

/-- A whole number as the value in a line. -/
def OneLine.integer (n : Int) : OneLine true where
  source := integerText n
  style := .plain
  text := integerText n
  inLine := .plain (isLine_integerText n)
  allowed := allowed_integerText n

namespace CoreSchema

/-- A text of digits has no mark of another base at its front. -/
theorem based?_of_digits {text : Text} (h : ∀ c ∈ text, c.isDigit = true) : based? text = none := by
  unfold based?
  split
  · exact absurd (h 'x' (by simp)) (by decide)
  · exact absurd (h 'o' (by simp)) (by decide)
  · exact absurd (h 'b' (by simp)) (by decide)
  · rfl

theorem ne_sign_of_isDigit {c : Char} (h : c.isDigit = true) : c ≠ '+' ∧ c ≠ '-' := by
  constructor
  · rintro rfl
    exact absurd h (by decide)
  · rintro rfl
    exact absurd h (by decide)

theorem hasLeadingZero_digits (n : Nat) : hasLeadingZero (Text.digits n) = false := by
  by_cases hn : n = 0
  · subst hn
    decide
  · have hfront := Text.head?_digits_ne_zero hn
    obtain ⟨c, rest, hdigits⟩ := List.exists_cons_of_ne_nil (Text.digits_ne_nil n)
    obtain ⟨hplus, hminus⟩ :=
      ne_sign_of_isDigit (Text.isDigit_of_mem_digits (hdigits ▸ List.mem_cons_self))
    rw [hdigits] at hfront ⊢
    have hzero : c ≠ '0' := fun h => hfront (congrArg some h)
    simp [hasLeadingZero, withoutSign, hplus, hminus, hzero]

/-- **A whole number is read as what it is, or not at all.** -/
theorem natural?_integerText (bound : Nat) (n : Int) :
    natural? bound (integerText n) = if 0 ≤ n ∧ n < bound then some n.toNat else none := by
  by_cases hn : n < 0
  · rw [if_neg (by omega), integerText, if_pos hn]
    simp [natural?, based?, isSigned]
  · have hdigit : ∀ c ∈ Text.digits n.natAbs, c.isDigit = true :=
      fun c hc => Text.isDigit_of_mem_digits hc
    obtain ⟨c, rest, hdigits⟩ := List.exists_cons_of_ne_nil (Text.digits_ne_nil n.natAbs)
    obtain ⟨hplus, hminus⟩ := ne_sign_of_isDigit (hdigit c (hdigits ▸ List.mem_cons_self))
    have hbased := based?_of_digits hdigit
    have hzero := hasLeadingZero_digits n.natAbs
    have hread := Text.natural?_digits n.natAbs
    have htext : integerText n = Text.digits n.natAbs := by
      rw [integerText, if_neg hn]
      rfl
    rw [hdigits] at hbased hzero hread
    have hvalue : natural? bound (c :: rest) = (some n.natAbs).filter (· < bound) := by
      simp [natural?, isSigned, hplus, hminus, hbased, hzero, hread]
    have habs : n.natAbs = n.toNat := by omega
    have hbound : n.toNat < bound ↔ 0 ≤ n ∧ n < bound := by omega
    rw [htext, hdigits, hvalue, habs, Option.filter_some]
    simp only [decide_eq_true_eq, hbound]

end CoreSchema

end JobsGateway.Yaml
