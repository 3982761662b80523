import JobsGateway.Client.Reply
import JobsGateway.Proofs.Text.Decimal
import JobsGateway.Proofs.Text.Utf8

/-!
# Numbers as values of fields

A number that stands alone in a value is read back from it. Such a value is no
list, and there are no blanks around it.
-/

namespace JobsGateway.Reply

theorem charsOf_encode_of_ascii {text : Text} (h : ∀ c ∈ text, c.toNat < 0x80) :
    charsOf (Utf8.encode text) = text := by
  induction text with
  | nil => rfl
  | cons c text ih =>
      have hc := h c List.mem_cons_self
      rw [Utf8.encode_cons_of_ascii hc, charsOf, List.map_cons, Utf8.toNat_octet hc,
        Char.ofNat_toNat]
      exact congrArg _ (ih fun d hd => h d (List.mem_cons_of_mem c hd))

/-- A number is read back from the value that it is written as. -/
theorem natural?_numberOctets (n : Nat) :
    Text.natural? 10 (charsOf (numberOctets n)) = some n := by
  rw [numberOctets, charsOf_encode_of_ascii fun c hc =>
    Text.lt_of_isDigit (Text.isDigit_of_mem_digits hc), Text.natural?_digits]

theorem items_of_no_comma {v : Bytes} (h : 0x2C ∉ v) : items v = [v] := by
  induction v with
  | nil => rfl
  | cons b v ih =>
      rw [List.mem_cons, not_or] at h
      rw [items, if_neg (Ne.symm h.1), ih h.2]

theorem trimBlanks_of_no_blank {v : Bytes} (h : ∀ b ∈ v, isBlank b = false) :
    trimBlanks v = v := by
  have hself : ∀ s : Bytes, (∀ b ∈ s, isBlank b = false) → s.dropWhile isBlank = s := by
    intro s hs
    cases s with
    | nil => rfl
    | cons b s => rw [List.dropWhile_cons_of_neg (by simp [hs b List.mem_cons_self])]
  rw [trimBlanks, hself v h, hself v.reverse fun b hb => h b (List.mem_reverse.mp hb),
    List.reverse_reverse]

/-- A value that is a number is no list, and there are no blanks around it. -/
theorem items_of_number {v : Bytes} {n : Nat} (h : Text.natural? 10 (charsOf v) = some n) :
    items v = [v] ∧ trimBlanks v = v := by
  have hfrom : Text.naturalFrom? 10 0 (charsOf v) = some n := by
    cases v with
    | nil => cases h
    | cons b v => exact h
  have hdigit : ∀ b ∈ v, Text.digitIn? 10 (Char.ofNat b.toNat) ≠ none := fun b hb =>
    Text.digitIn?_ne_none_of_mem hfrom (List.mem_map.mpr ⟨b, hb, rfl⟩)
  constructor
  · exact items_of_no_comma fun hcomma => hdigit _ hcomma (by decide)
  · refine trimBlanks_of_no_blank fun b hb => Bool.eq_false_iff.mpr fun hblank => ?_
    have hb := hdigit b hb
    rcases Bool.or_eq_true_iff.mp hblank with h | h
    · rw [beq_iff_eq.mp h] at hb
      exact hb (by decide)
    · rw [beq_iff_eq.mp h] at hb
      exact hb (by decide)

end JobsGateway.Reply
