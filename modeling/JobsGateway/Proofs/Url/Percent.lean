import JobsGateway.Proofs.Text.Utf8
import JobsGateway.Url.Percent

/-!
# What percent-encoding leaves

An encoded text holds no character of its set, as long as the set spares the
characters that escapes consist of. So a mark that is in the set can be used to
part encoded texts, and a text without characters of the set is left as it is.
-/

namespace JobsGateway.Percent

/-- The characters that escapes consist of. -/
def inEscape (c : Char) : Bool :=
  c == '%' || "0123456789ABCDEF".toList.contains c

/-- The set has none of the characters that escapes consist of. -/
def SparesEscapes (set : Char → Bool) : Prop :=
  ∀ c, inEscape c = true → set c = false

theorem inEscape_cases {c : Char} (h : inEscape c = true) :
    c ∈ "%0123456789ABCDEF".toList := by
  rw [inEscape, Bool.or_eq_true, beq_iff_eq, List.contains_iff_mem] at h
  exact List.mem_cons.mpr h

theorem SparesEscapes.of_all {set : Char → Bool}
    (h : "%0123456789ABCDEF".toList.all (!set ·) = true) : SparesEscapes set := by
  intro c hc
  have := List.all_eq_true.mp h c (inEscape_cases hc)
  simpa using this

theorem sparesEscapes_inFragment : SparesEscapes inFragment := .of_all (by decide)

theorem sparesEscapes_inSpecialQuery : SparesEscapes inSpecialQuery := .of_all (by decide)

theorem sparesEscapes_inPath : SparesEscapes inPath := .of_all (by decide)

theorem sparesEscapes_inUserinfo : SparesEscapes inUserinfo := .of_all (by decide)

theorem inEscape_hexDigit {n : Nat} (h : n < 16) : inEscape (hexDigit n) = true := by
  have hall : ∀ k : Fin 16, inEscape (hexDigit k) = true := by decide
  exact hall ⟨n, h⟩

theorem inEscape_of_mem_escape {b : UInt8} {c : Char} (h : c ∈ escape b) :
    inEscape c = true := by
  have hb : b.toNat < 256 := b.toNat_lt
  simp only [escape, List.mem_cons, List.not_mem_nil, or_false] at h
  rcases h with rfl | rfl | rfl
  · decide
  · exact inEscape_hexDigit (by omega)
  · exact inEscape_hexDigit (by omega)

/-- A character of an encoded text belongs to an escape, or stood there before
and is not in the set. -/
theorem mem_encode {set : Char → Bool} {text : Text} {c : Char} (h : c ∈ encode set text) :
    inEscape c = true ∨ (c ∈ text ∧ set c = false) := by
  obtain ⟨a, ha, hc⟩ := List.mem_flatMap.mp h
  unfold encodeChar at hc
  split at hc
  · obtain ⟨b, -, hb⟩ := List.mem_flatMap.mp hc
    exact Or.inl (inEscape_of_mem_escape hb)
  · rename_i hset
    rw [List.mem_singleton.mp hc]
    exact Or.inr ⟨ha, by simpa using hset⟩

theorem not_set_of_mem_encode {set : Char → Bool} (hset : SparesEscapes set) {text : Text}
    {c : Char} (h : c ∈ encode set text) : set c = false := by
  rcases mem_encode h with hc | ⟨-, hc⟩
  · exact hset c hc
  · exact hc

theorem encodeChar_eq_self {set : Char → Bool} {c : Char} (h : set c = false) :
    encodeChar set c = [c] := by
  simp [encodeChar, h]

theorem encode_eq_self {set : Char → Bool} {text : Text} (h : ∀ c ∈ text, set c = false) :
    encode set text = text := by
  induction text with
  | nil => rfl
  | cons c text ih =>
      rw [encode_cons, encodeChar_eq_self (h c (by simp)),
        ih fun d hd => h d (List.mem_cons_of_mem c hd)]
      rfl

theorem encodeChar_ne_nil (set : Char → Bool) (c : Char) : encodeChar set c ≠ [] := by
  unfold encodeChar
  split
  · obtain ⟨b, rest, hb⟩ := List.exists_cons_of_ne_nil (String.utf8EncodeChar_ne_nil (c := c))
    simp [hb, escape]
  · simp

theorem decode_eq_self {octets : Bytes} (h : 0x25 ∉ octets) : decode octets = octets := by
  induction octets with
  | nil => rfl
  | cons a rest ih =>
      simp only [List.mem_cons, not_or] at h
      rw [decode.eq_def]
      split
      · rename_i heq
        exact absurd (List.cons.inj heq).1.symm h.1
      · rename_i heq
        obtain ⟨rfl, rfl⟩ := List.cons.inj heq
        rw [ih h.2]
      · rename_i heq
        cases heq

theorem decode_eq_nil {octets : Bytes} (h : decode octets = []) : octets = [] := by
  rw [decode.eq_def] at h
  split at h
  · split at h <;> cases h
  · cases h
  · rfl

/-- ASCII without a percent sign is the text that it stands for. -/
theorem decode?_decode_encode {text : Text} (hascii : ∀ c ∈ text, c.toNat < 0x80)
    (hplain : '%' ∉ text) : Utf8.decode? (decode (Utf8.encode text)) = some text := by
  rw [decode_eq_self, Utf8.decode?_encode]
  intro h
  obtain ⟨c, hc, heq⟩ := Utf8.mem_encode_of_ascii hascii h
  have hnat : c.toNat = ('%' : Char).toNat := by
    rw [← Utf8.toNat_octet (hascii c hc), ← heq]
    rfl
  exact hplain (Char.toNat_inj.mp hnat ▸ hc)

end JobsGateway.Percent
