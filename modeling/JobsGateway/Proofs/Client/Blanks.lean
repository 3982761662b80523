import Mathlib.Data.List.DropRight
import JobsGateway.Client.Head
import JobsGateway.Proofs.Http.Fields
import JobsGateway.Proofs.Text.Utf8
import JobsGateway.Text.Blank

/-!
# Blanks around a value

Whoever reads a field line leaves out the spaces and tabs around its value. A
text that is sent as a value is therefore read without those at its ends. A
space or a tab is one octet, and no other character has such an octet in it, so
it does not matter whether the characters or the octets are trimmed.
-/

namespace JobsGateway

/-- The values of a name as they are read. -/
def Fields.reads (fields : Fields) (name : Text) : List Bytes :=
  (fields.values name).map Reply.trimBlanks

namespace Text

/-- A space or a tab. -/
def isFieldBlank (c : Char) : Bool :=
  c == ' ' || c == '\t'

/-- The text without spaces and tabs at its ends. -/
def trimField (text : Text) : Text :=
  trimWhile isFieldBlank text

theorem trimField_eq_nil_iff (text : Text) :
    text.trimField = [] ↔ ∀ c ∈ text, isFieldBlank c = true := by
  show (text.dropWhile isFieldBlank).rdropWhile isFieldBlank = [] ↔ _
  rw [List.rdropWhile_eq_nil_iff]
  constructor
  · intro hall
    -- What is not dropped at the front would begin with something else.
    have hfront : text.dropWhile isFieldBlank = [] := by
      by_contra hne
      have hhead := List.head_dropWhile_not isFieldBlank hne
      rw [hall _ (List.head_mem hne)] at hhead
      cases hhead
    exact List.dropWhile_eq_nil_iff.mp hfront
  · intro hall c hc
    exact hall c ((List.dropWhile_sublist isFieldBlank).mem hc)

end Text

namespace Reply

open Text

/-! ## The octets of a character -/

theorem isBlank_octet {c : Char} (h : c.toNat < 0x80) :
    isBlank (UInt8.ofNat c.toNat) = isFieldBlank c := by
  have hall : ∀ n : Fin 128,
      isBlank (UInt8.ofNat (Char.ofNat n).toNat) = isFieldBlank (Char.ofNat n) := by
    decide
  exact Text.forall_ascii (P := fun c => isBlank (UInt8.ofNat c.toNat) = isFieldBlank c) hall h

/-- The octets of a character are blank exactly if the character is. -/
theorem isBlank_of_mem_octets {c : Char} {b : UInt8} (hb : b ∈ String.utf8EncodeChar c) :
    isBlank b = isFieldBlank c := by
  by_cases hc : c.toNat < 0x80
  · rw [Utf8.utf8EncodeChar_of_ascii hc] at hb
    rw [List.mem_singleton.mp hb, isBlank_octet hc]
  · -- Neither the character nor the octet is one of ASCII, as both blanks are.
    have hoctet := Utf8.octets_of_not_ascii (by omega) hb
    have hchar : isFieldBlank c = false := by
      have hspace : c ≠ ' ' := by
        rintro rfl
        exact hc (by decide)
      have htab : c ≠ '\t' := by
        rintro rfl
        exact hc (by decide)
      simp [isFieldBlank, hspace, htab]
    have hspace : b ≠ 0x20 := by
      rintro rfl
      exact absurd hoctet (by decide)
    have htab : b ≠ 0x09 := by
      rintro rfl
      exact absurd hoctet (by decide)
    simp [hchar, isBlank, hspace, htab]

theorem octets_ne_nil (c : Char) : String.utf8EncodeChar c ≠ [] := by
  intro hnil
  have hlength := congrArg List.length hnil
  rw [String.length_utf8EncodeChar] at hlength
  exact absurd hlength (Nat.ne_of_gt c.utf8Size_pos)

/-! ## The octets of a text -/

theorem dropWhile_encode (text : Text) :
    (Utf8.encode text).dropWhile isBlank = Utf8.encode (text.dropWhile isFieldBlank) := by
  induction text with
  | nil => rfl
  | cons c text ih =>
      rw [Utf8.encode_cons, List.dropWhile_cons]
      by_cases hc : isFieldBlank c = true
      · rw [if_pos hc, ← ih]
        exact List.dropWhile_append_of_pos fun b hb => (isBlank_of_mem_octets hb).trans hc
      · rw [if_neg hc, Utf8.encode_cons]
        obtain ⟨b, more, hcons⟩ := List.exists_cons_of_ne_nil (octets_ne_nil c)
        have hb : isBlank b = isFieldBlank c := isBlank_of_mem_octets (by simp [hcons])
        rw [hcons, List.cons_append, List.dropWhile_cons_of_neg (by rw [hb]; exact hc)]

theorem rdropWhile_encode (text : Text) :
    (Utf8.encode text).rdropWhile isBlank = Utf8.encode (text.rdropWhile isFieldBlank) := by
  -- The octets of the last character are dropped first.
  induction text using List.reverseRecOn with
  | nil => rfl
  | append_singleton text c ih =>
      have hoctets : Utf8.encode (text ++ [c]) = Utf8.encode text ++ String.utf8EncodeChar c := by
        rw [Utf8.encode_append, Utf8.encode_cons, Utf8.encode_nil, List.append_nil]
      by_cases hc : isFieldBlank c = true
      · have hall : ∀ b ∈ (String.utf8EncodeChar c).reverse, isBlank b = true :=
          fun b hb => (isBlank_of_mem_octets (List.mem_reverse.mp hb)).trans hc
        rw [List.rdropWhile_concat_pos _ _ _ hc, ← ih, hoctets, List.rdropWhile,
          List.reverse_append, List.dropWhile_append_of_pos hall]
        rfl
      · rw [List.rdropWhile_concat_neg _ _ _ hc, List.rdropWhile_eq_self_iff]
        intro hne
        have hlast : (Utf8.encode (text ++ [c])).getLast hne ∈ String.utf8EncodeChar c := by
          simp only [hoctets, List.getLast_append_of_ne_nil _ (octets_ne_nil c)]
          exact List.getLast_mem _
        rw [isBlank_of_mem_octets hlast]
        exact hc

/-- **A text is read as a value without the blanks at its ends.** -/
theorem trimBlanks_encode (text : Text) :
    trimBlanks (Utf8.encode text) = Utf8.encode text.trimField := by
  show ((Utf8.encode text).dropWhile isBlank).rdropWhile isBlank = _
  rw [dropWhile_encode, rdropWhile_encode]
  rfl

end Reply

end JobsGateway
