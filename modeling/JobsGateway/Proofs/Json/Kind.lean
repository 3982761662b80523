import JobsGateway.Json.Kind
import JobsGateway.Proofs.Json.Values

/-!
# Strings and nulls are read, and nothing else

Where a string is asked for, the reader takes a value if it is a string that
stands for a text; where null is allowed as well, it takes that too. Any other
value is refused.
-/

namespace JobsGateway.Json

/-- A value is a string with a text, or null where there is none. -/
def TellsText (v : Bytes) : Option Text → Prop
  | some text => IsStringText v text
  | none => v = octets "null"

theorem head?_of_word {v : Bytes} (h : v ∈ words) :
    v = octets "null" ∨ v.head? = some 0x74 ∨ v.head? = some 0x66 := by
  have hall : ∀ v ∈ words, v = octets "null" ∨ v.head? = some 0x74 ∨ v.head? = some 0x66 := by
    decide
  exact hall v h

theorem IsValueText.of_quote {more : Bytes} (h : IsValueText (0x22 :: more)) :
    ∃ s points, more = s ++ [0x22] ∧ Inside s points := by
  cases h with
  | word hword =>
      rcases head?_of_word hword with heq | heq | heq
      · exact absurd (List.cons.inj heq).1 (by decide)
      · cases heq
      · cases heq
  | number hnumber =>
      obtain ⟨b, _, heq, hb, -⟩ := hnumber.skipScalar closes_nil
      obtain ⟨rfl, -⟩ := List.cons.inj heq
      exact absurd rfl (number_head_ne hb (by decide))
  | string hinside => exact ⟨_, _, rfl, hinside⟩

theorem IsValueText.of_n {more : Bytes} (h : IsValueText (0x6E :: more)) :
    more = octets "ull" := by
  cases h with
  | word hword =>
      rcases head?_of_word hword with heq | heq | heq
      · exact (List.cons.inj heq).2
      · cases heq
      · cases heq
  | number hnumber =>
      obtain ⟨b, _, heq, hb, -⟩ := hnumber.skipScalar closes_nil
      obtain ⟨rfl, -⟩ := List.cons.inj heq
      exact absurd rfl (number_head_ne hb (by decide))

/-- Only a string is read as one. -/
theorem readString_eq_ok_iff {w v rest after : Bytes} {text : Text} (hw : IsBlank w)
    (hv : IsValueText v) :
    readString (w ++ (v ++ rest)) = .ok (text, after) ↔ IsStringText v text ∧ after = rest := by
  obtain ⟨b, more, rfl, hspace, -⟩ := hv.head
  rw [readString, List.cons_append, skipSpace_append_cons hw hspace]
  dsimp only
  by_cases hb : b = 0x22
  · subst hb
    obtain ⟨s, points, rfl, hinside⟩ := hv.of_quote
    rw [if_pos rfl, List.append_assoc, List.singleton_append, readText_eq_ok_iff hinside,
      isStringText_iff hinside]
  · rw [if_neg hb]
    constructor
    · intro h
      cases h
    · rintro ⟨⟨s, points, heq, -⟩, -⟩
      exact absurd (List.cons.inj heq).1 hb

/-- Only a string or null is read where both are allowed. -/
theorem readString?_eq_ok_iff {w v rest after : Bytes} {text : Option Text} (hw : IsBlank w)
    (hv : IsValueText v) :
    readString? (w ++ (v ++ rest)) = .ok (text, after) ↔ TellsText v text ∧ after = rest := by
  obtain ⟨b, more, rfl, hspace, -⟩ := hv.head
  rw [readString?, List.cons_append, skipSpace_append_cons hw hspace]
  dsimp only
  by_cases hb : b = 0x6E
  · subst hb
    obtain rfl := hv.of_n
    rw [if_pos rfl, readWord_append, Outcome.map_eq_ok_iff]
    constructor
    · rintro ⟨after', heq, heq'⟩
      cases heq
      cases heq'
      exact ⟨rfl, rfl⟩
    · rintro ⟨htext, rfl⟩
      cases text with
      | none => exact ⟨_, rfl, rfl⟩
      | some text =>
          obtain ⟨s, points, heq, -⟩ := htext
          exact absurd (List.cons.inj heq).1 (by decide)
  · rw [if_neg hb, Outcome.map_eq_ok_iff]
    have hstring (text : Text) (after : Bytes) :
        readString (b :: (more ++ rest)) = .ok (text, after) ↔
          IsStringText (b :: more) text ∧ after = rest :=
      readString_eq_ok_iff (w := []) isBlank_nil hv
    constructor
    · rintro ⟨⟨text', after'⟩, hread, heq⟩
      cases heq
      exact (hstring text' after').mp hread
    · rintro ⟨htext, rfl⟩
      cases text with
      | none => exact absurd (List.cons.inj htext).1 hb
      | some text => exact ⟨(text, after), (hstring text after).mpr ⟨htext, rfl⟩, rfl⟩

end JobsGateway.Json
