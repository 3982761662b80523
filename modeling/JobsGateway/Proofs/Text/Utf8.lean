import JobsGateway.Text.Utf8

/-!
# Texts as octets

A character of ASCII is one octet, and any other character has no octet of ASCII
in it. Every text is read back from its octets, so no two texts have the same.
-/

namespace JobsGateway

/-- What holds of the 128 characters of ASCII one by one. -/
theorem Text.forall_ascii {P : Char → Prop} (h : ∀ n : Fin 128, P (Char.ofNat n)) {c : Char}
    (hc : c.toNat < 128) : P c := by
  have hn := h ⟨c.toNat, hc⟩
  rwa [Char.ofNat_toNat] at hn

theorem Text.lt_of_isLower {c : Char} (h : c.isLower = true) : c.toNat < 128 := by
  obtain ⟨-, hle⟩ := Bool.and_eq_true_iff.mp h
  exact Nat.lt_of_le_of_lt (UInt32.le_iff_toNat_le.mp (of_decide_eq_true hle)) (by decide)

theorem Text.lt_of_isUpper {c : Char} (h : c.isUpper = true) : c.toNat < 128 := by
  obtain ⟨-, hle⟩ := of_decide_eq_true h
  exact Nat.lt_of_le_of_lt (UInt32.le_iff_toNat_le.mp hle) (by decide)

theorem Text.lt_of_isDigit {c : Char} (h : c.isDigit = true) : c.toNat < 128 := by
  obtain ⟨-, hle⟩ := Bool.and_eq_true_iff.mp h
  exact Nat.lt_of_le_of_lt (UInt32.le_iff_toNat_le.mp (of_decide_eq_true hle)) (by decide)

theorem Text.lt_of_isAlphanum {c : Char} (h : c.isAlphanum = true) : c.toNat < 128 := by
  rcases Bool.or_eq_true_iff.mp h with halpha | hdigit
  · rcases Bool.or_eq_true_iff.mp halpha with hupper | hlower
    · exact Text.lt_of_isUpper hupper
    · exact Text.lt_of_isLower hlower
  · exact Text.lt_of_isDigit hdigit

namespace Utf8

theorem utf8EncodeChar_of_ascii {c : Char} (h : c.toNat < 0x80) :
    String.utf8EncodeChar c = [UInt8.ofNat c.toNat] := by
  have hle : c.toNat ≤ 127 := by omega
  simp only [String.utf8EncodeChar, Char.toNat_val, if_pos hle]

theorem toNat_ofNat_of_lt {n : Nat} (h : n < 256) : (UInt8.ofNat n).toNat = n := by
  rw [UInt8.toNat_ofNat']
  omega

theorem toNat_octet {c : Char} (h : c.toNat < 0x80) :
    (UInt8.ofNat c.toNat).toNat = c.toNat :=
  toNat_ofNat_of_lt (Nat.lt_trans h (by decide))

theorem encode_cons_of_ascii {c : Char} (h : c.toNat < 0x80) (text : Text) :
    encode (c :: text) = UInt8.ofNat c.toNat :: encode text := by
  rw [encode_cons, utf8EncodeChar_of_ascii h]
  rfl

theorem decode?_cons_of_ascii {c : Char} (h : c.toNat < 0x80) (rest : Bytes) :
    decode? (UInt8.ofNat c.toNat :: rest) = (decode? rest).map (c :: ·) := by
  have hlt : UInt8.ofNat c.toNat < 0x80 := by
    rw [UInt8.lt_iff_toNat_lt, toNat_octet h]
    exact h
  rw [decode?.eq_def]
  simp only [if_pos hlt, toNat_octet h, Char.ofNat_toNat]

theorem mem_encode_of_ascii {text : Text} (h : ∀ c ∈ text, c.toNat < 0x80) {b : UInt8}
    (hb : b ∈ encode text) : ∃ c ∈ text, b = UInt8.ofNat c.toNat := by
  obtain ⟨c, hc, hbc⟩ := List.mem_flatMap.mp hb
  rw [utf8EncodeChar_of_ascii (h c hc)] at hbc
  exact ⟨c, hc, List.mem_singleton.mp hbc⟩

/-- A character outside ASCII has no octet of ASCII in it. -/
theorem octets_of_not_ascii {c : Char} (h : 0x80 ≤ c.toNat) {b : UInt8}
    (hb : b ∈ String.utf8EncodeChar c) : 0x80 ≤ b.toNat := by
  simp only [String.utf8EncodeChar, Char.toNat_val] at hb
  -- Two, three or four octets are left.
  rw [if_neg (by omega)] at hb
  split at hb
  · simp only [List.mem_cons, List.not_mem_nil, or_false] at hb
    rcases hb with rfl | rfl <;> simp [UInt8.toNat_add, UInt8.toNat_ofNat'] <;> omega
  · split at hb
    · simp only [List.mem_cons, List.not_mem_nil, or_false] at hb
      rcases hb with rfl | rfl | rfl <;> simp [UInt8.toNat_add, UInt8.toNat_ofNat'] <;> omega
    · simp only [List.mem_cons, List.not_mem_nil, or_false] at hb
      rcases hb with rfl | rfl | rfl | rfl <;>
        simp [UInt8.toNat_add, UInt8.toNat_ofNat'] <;> omega

/-! ## Reading texts back -/

section Sequences

variable {a b c d : UInt8} (rest : Bytes)

theorem decode?_two (hlow : 0xC2 ≤ a.toNat) (hhigh : a.toNat ≤ 0xDF) (hb : isTail b = true) :
    decode? (a :: b :: rest) =
      (decode? rest).map (Char.ofNat (a.toNat % 32 * 64 + tailBits b) :: ·) := by
  rw [decode?.eq_def]
  simp only [UInt8.lt_iff_toNat_lt, UInt8.le_iff_toNat_le, UInt8.reduceToNat, hb, Bool.and_true,
    Bool.and_eq_true, decide_eq_true_eq]
  rw [if_neg (by omega), if_pos ⟨hlow, hhigh⟩]

theorem decode?_three (hlow : 0xE0 ≤ a.toNat) (hhigh : a.toNat ≤ 0xEF)
    (hb : isSecondOfThree a b = true) (hc : isTail c = true) :
    decode? (a :: b :: c :: rest) = (decode? rest).map
      (Char.ofNat (a.toNat % 16 * 4096 + tailBits b * 64 + tailBits c) :: ·) := by
  rw [decode?.eq_def]
  simp only [UInt8.lt_iff_toNat_lt, UInt8.le_iff_toNat_le, UInt8.reduceToNat, hb, hc, Bool.and_true,
    Bool.and_eq_true, decide_eq_true_eq]
  rw [if_neg (by omega), if_neg (by omega), if_pos ⟨hlow, hhigh⟩]

theorem decode?_four (hlow : 0xF0 ≤ a.toNat) (hhigh : a.toNat ≤ 0xF4)
    (hb : isSecondOfFour a b = true) (hc : isTail c = true) (hd : isTail d = true) :
    decode? (a :: b :: c :: d :: rest) = (decode? rest).map (Char.ofNat
      (a.toNat % 8 * 262144 + tailBits b * 4096 + tailBits c * 64 + tailBits d) :: ·) := by
  rw [decode?.eq_def]
  simp only [UInt8.lt_iff_toNat_lt, UInt8.le_iff_toNat_le, UInt8.reduceToNat, hb, hc, hd,
    Bool.and_true, Bool.and_eq_true, decide_eq_true_eq]
  rw [if_neg (by omega), if_neg (by omega), if_neg (by omega), if_pos ⟨hlow, hhigh⟩]

end Sequences

theorem isTail_iff {b : UInt8} : isTail b = true ↔ 0x80 ≤ b.toNat ∧ b.toNat ≤ 0xBF := by
  simp [isTail, UInt8.le_iff_toNat_le]

theorem isSecondOfThree_iff {a b : UInt8} : isSecondOfThree a b = true ↔
    0x80 ≤ b.toNat ∧ b.toNat ≤ 0xBF ∧ (a.toNat = 0xE0 → 0xA0 ≤ b.toNat) ∧
      (a.toNat = 0xED → b.toNat ≤ 0x9F) := by
  simp only [isSecondOfThree, beq_iff_eq, ← UInt8.toNat_inj, UInt8.reduceToNat]
  split
  · simp [UInt8.le_iff_toNat_le]
    omega
  · split
    · simp [UInt8.le_iff_toNat_le]
      omega
    · rw [isTail_iff]
      omega

theorem isSecondOfFour_iff {a b : UInt8} : isSecondOfFour a b = true ↔
    0x80 ≤ b.toNat ∧ b.toNat ≤ 0xBF ∧ (a.toNat = 0xF0 → 0x90 ≤ b.toNat) ∧
      (a.toNat = 0xF4 → b.toNat ≤ 0x8F) := by
  simp only [isSecondOfFour, beq_iff_eq, ← UInt8.toNat_inj, UInt8.reduceToNat]
  split
  · simp [UInt8.le_iff_toNat_le]
    omega
  · split
    · simp [UInt8.le_iff_toNat_le]
      omega
    · rw [isTail_iff]
      omega

/-- **A character is read back from its octets**, whatever comes after them. -/
theorem decode?_utf8EncodeChar (c : Char) (rest : Bytes) :
    decode? (String.utf8EncodeChar c ++ rest) = (decode? rest).map (c :: ·) := by
  have hvalid : c.toNat < 0xD800 ∨ 0xDFFF < c.toNat ∧ c.toNat < 0x110000 := c.valid
  by_cases hone : c.toNat < 0x80
  · rw [utf8EncodeChar_of_ascii hone]
    exact decode?_cons_of_ascii hone rest
  simp only [String.utf8EncodeChar, Char.toNat_val, if_neg (show ¬ c.toNat ≤ 127 by omega)]
  have htail (n : Nat) : (UInt8.ofNat (n % 64 + 128)).toNat = n % 64 + 128 :=
    toNat_ofNat_of_lt (by omega)
  -- Each length: the octets are in range, and their bits are those of the character.
  split
  · have ha : (UInt8.ofNat (c.toNat / 64 % 32 + 192)).toNat = c.toNat / 64 % 32 + 192 :=
      toNat_ofNat_of_lt (by omega)
    have hbits : (c.toNat / 64 % 32 + 192) % 32 * 64 + (c.toNat % 64 + 128) % 64 = c.toNat := by
      omega
    simp only [List.cons_append, List.nil_append]
    rw [decode?_two rest (by omega) (by omega) (isTail_iff.mpr (by rw [htail]; omega)), tailBits,
      ha, htail, hbits, Char.ofNat_toNat]
  · split
    · have ha : (UInt8.ofNat (c.toNat / 4096 % 16 + 224)).toNat = c.toNat / 4096 % 16 + 224 :=
        toNat_ofNat_of_lt (by omega)
      have hbits : (c.toNat / 4096 % 16 + 224) % 16 * 4096 + (c.toNat / 64 % 64 + 128) % 64 * 64 +
          (c.toNat % 64 + 128) % 64 = c.toNat := by
        omega
      simp only [List.cons_append, List.nil_append]
      rw [decode?_three rest (by omega) (by omega)
        (isSecondOfThree_iff.mpr (by rw [ha, htail]; omega))
        (isTail_iff.mpr (by rw [htail]; omega)), tailBits, tailBits, ha, htail, htail, hbits,
        Char.ofNat_toNat]
    · have ha : (UInt8.ofNat (c.toNat / 262144 % 8 + 240)).toNat = c.toNat / 262144 % 8 + 240 :=
        toNat_ofNat_of_lt (by omega)
      have hbits : (c.toNat / 262144 % 8 + 240) % 8 * 262144 +
          (c.toNat / 4096 % 64 + 128) % 64 * 4096 + (c.toNat / 64 % 64 + 128) % 64 * 64 +
            (c.toNat % 64 + 128) % 64 = c.toNat := by
        omega
      simp only [List.cons_append, List.nil_append]
      rw [decode?_four rest (by omega) (by omega)
        (isSecondOfFour_iff.mpr (by rw [ha, htail]; omega))
        (isTail_iff.mpr (by rw [htail]; omega)) (isTail_iff.mpr (by rw [htail]; omega)), tailBits,
        tailBits, tailBits, ha, htail, htail, htail, hbits, Char.ofNat_toNat]

/-- **A text is read back from its octets.** -/
theorem decode?_encode (text : Text) : decode? (encode text) = some text := by
  induction text with
  | nil => rfl
  | cons c text ih =>
      rw [encode_cons, decode?_utf8EncodeChar, ih]
      rfl

/-- **No two texts have the same octets.** -/
theorem encode_injective : Function.Injective encode := by
  intro s t h
  have hread := congrArg decode? h
  rw [decode?_encode, decode?_encode] at hread
  exact Option.some.inj hread

theorem encode_eq_nil {text : Text} (h : encode text = []) : text = [] :=
  encode_injective (h.trans encode_nil.symm)

/-- Octets that stand for no character are none. -/
theorem decode?_eq_nil {octets : Bytes} (h : decode? octets = some []) : octets = [] := by
  cases octets with
  | nil => rfl
  | cons a rest =>
      have hcons (c : Char) (more : Option Text) : more.map (c :: ·) ≠ some [] := by
        cases more <;> simp
      rw [decode?.eq_def] at h
      simp only at h
      -- Every branch that gives a text puts a character in front.
      split at h
      · exact absurd h (hcons _ _)
      · split at h
        · cases h
        · split at h
          · exact absurd h (hcons _ _)
          · split at h
            · cases h
            · split at h
              · exact absurd h (hcons _ _)
              · split at h
                · cases h
                · split at h
                  · exact absurd h (hcons _ _)
                  · cases h

end Utf8

end JobsGateway
