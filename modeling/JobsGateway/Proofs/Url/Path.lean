import JobsGateway.Proofs.Text.Split
import JobsGateway.Proofs.Url.Percent
import JobsGateway.Url.Path

/-!
# Paths read back

Pieces that hold no separator, and of which none stands for a directory, come
back from their joint text, each percent-encoded. Encoding does not make or
unmake dot segments: it leaves the dot and its escapes alone, and no escape that
it writes is one of a dot.
-/

namespace JobsGateway.Url

/-! ## Encoding and dot segments -/

/-- The three spellings of a dot. -/
theorem afterDot?_eq_some_iff {text rest : Text} :
    afterDot? text = some rest ↔
      text = '.' :: rest ∨ text = '%' :: '2' :: 'e' :: rest ∨
        text = '%' :: '2' :: 'E' :: rest := by
  constructor
  · intro h
    unfold afterDot? at h
    split at h
    · exact Or.inl (by rw [Option.some.inj h])
    · exact Or.inr (Or.inl (by rw [Option.some.inj h]))
    · exact Or.inr (Or.inr (by rw [Option.some.inj h]))
    · cases h
  · rintro (rfl | rfl | rfl) <;> rfl

/-- An octet other than the dot is not escaped as one. -/
theorem afterDot?_escape {b : UInt8} (h : b.toNat ≠ 0x2E) (rest : Text) :
    afterDot? (Percent.escape b ++ rest) = none := by
  have hall : ∀ n : Fin 16, (Percent.hexDigit n = '2' → n.val = 2) ∧
      (Percent.hexDigit n = 'E' → n.val = 14) ∧ Percent.hexDigit n ≠ 'e' := by decide
  have hb : b.toNat < 256 := b.toNat_lt
  have hhigh := (hall ⟨b.toNat / 16, by omega⟩).1
  have hlow := (hall ⟨b.toNat % 16, by omega⟩).2
  simp only [Percent.escape, List.cons_append]
  unfold afterDot?
  split
  · rename_i heq
    exact absurd (List.cons.inj heq).1 (by decide)
  · rename_i heq
    simp only [List.cons.injEq] at heq
    exact absurd heq.2.2.1 hlow.2
  · rename_i heq
    simp only [List.cons.injEq] at heq
    have h₁ := hhigh heq.2.1
    have h₂ := hlow.1 heq.2.2.1
    simp only at h₁ h₂
    omega
  · rfl

/-- No character that a path has to escape turns into an escaped dot. -/
theorem afterDot?_encodeChar {c : Char} (h : Percent.inPath c = true) (rest : Text) :
    afterDot? (Percent.encodeChar Percent.inPath c ++ rest) = none := by
  obtain ⟨b, more, hoctets⟩ :=
    List.exists_cons_of_ne_nil (String.utf8EncodeChar_ne_nil (c := c))
  have hb : b.toNat ≠ 0x2E := by
    intro hdot
    have hmem : b ∈ String.utf8EncodeChar c := hoctets ▸ List.mem_cons_self
    by_cases hc : c.toNat < 0x80
    · rw [Utf8.utf8EncodeChar_of_ascii hc, List.mem_singleton] at hmem
      rw [hmem, Utf8.toNat_octet hc] at hdot
      rw [show c = '.' from Char.toNat_inj.mp hdot] at h
      exact absurd h (by decide)
    · have := Utf8.octets_of_not_ascii (Nat.le_of_not_lt hc) hmem
      omega
  rw [Percent.encodeChar, if_pos h, hoctets, List.flatMap_cons, List.append_assoc]
  exact afterDot?_escape hb _

/-- The first character of an encoded path text is one that may stand there as
it is only if the text itself starts with it. -/
theorem encode_eq_cons {text rest : Text} {d : Char} (hd : d ≠ '%')
    (h : Percent.encode Percent.inPath text = d :: rest) :
    ∃ tail, text = d :: tail ∧ rest = Percent.encode Percent.inPath tail := by
  cases text with
  | nil => cases h
  | cons c tail =>
      rw [Percent.encode_cons] at h
      by_cases hc : Percent.inPath c = true
      · obtain ⟨b, more, hoctets⟩ :=
          List.exists_cons_of_ne_nil (String.utf8EncodeChar_ne_nil (c := c))
        rw [Percent.encodeChar, if_pos hc, hoctets] at h
        exact absurd (List.cons.inj h).1.symm hd
      · rw [Percent.encodeChar_eq_self (by simpa using hc)] at h
        obtain ⟨rfl, rfl⟩ := List.cons.inj h
        exact ⟨tail, rfl, rfl⟩

/-- The same for the percent sign, where an escaped dot follows. -/
theorem encode_eq_percent {text rest after : Text}
    (hdot : afterDot? (Percent.encode Percent.inPath text) = some after)
    (h : Percent.encode Percent.inPath text = '%' :: rest) :
    ∃ tail, text = '%' :: tail ∧ rest = Percent.encode Percent.inPath tail := by
  cases text with
  | nil => cases h
  | cons c tail =>
      rw [Percent.encode_cons] at h hdot
      by_cases hc : Percent.inPath c = true
      · rw [afterDot?_encodeChar hc] at hdot
        cases hdot
      · rw [Percent.encodeChar_eq_self (by simpa using hc)] at h
        obtain ⟨rfl, rfl⟩ := List.cons.inj h
        exact ⟨tail, rfl, rfl⟩

/-- What is left after a dot is encoded as the whole is. -/
theorem afterDot?_encode (text : Text) :
    afterDot? (Percent.encode Percent.inPath text) =
      (afterDot? text).map (Percent.encode Percent.inPath) := by
  cases htext : afterDot? text with
  | some rest =>
      rw [Option.map_some, afterDot?_eq_some_iff]
      rcases afterDot?_eq_some_iff.mp htext with rfl | rfl | rfl
      · exact Or.inl rfl
      · exact Or.inr (Or.inl rfl)
      · exact Or.inr (Or.inr rfl)
  | none =>
      rw [Option.map_none, Option.eq_none_iff_forall_ne_some]
      intro rest hrest
      -- No escape begins like a dot, so what the dot is spelt with was there before.
      have hnone (tail : Text) := Option.eq_none_iff_forall_ne_some.mp htext tail
      simp only [ne_eq, afterDot?_eq_some_iff, not_or] at hnone
      rcases afterDot?_eq_some_iff.mp hrest with h | h | h
      · obtain ⟨tail, rfl, -⟩ := encode_eq_cons (by decide) h
        exact (hnone tail).1 rfl
      · obtain ⟨t₁, rfl, h₁⟩ := encode_eq_percent hrest h
        obtain ⟨t₂, rfl, h₂⟩ := encode_eq_cons (by decide) h₁.symm
        obtain ⟨t₃, rfl, -⟩ := encode_eq_cons (by decide) h₂.symm
        exact (hnone t₃).2.1 rfl
      · obtain ⟨t₁, rfl, h₁⟩ := encode_eq_percent hrest h
        obtain ⟨t₂, rfl, h₂⟩ := encode_eq_cons (by decide) h₁.symm
        obtain ⟨t₃, rfl, -⟩ := encode_eq_cons (by decide) h₂.symm
        exact (hnone t₃).2.2 rfl

theorem encode_eq_nil_iff {set : Char → Bool} {text : Text} :
    Percent.encode set text = [] ↔ text = [] := by
  cases text with
  | nil => simp
  | cons c rest => simp [Percent.encodeChar_ne_nil]

theorem map_encode_eq_some_nil {found : Option Text} :
    found.map (Percent.encode Percent.inPath) = some [] ↔ found = some [] := by
  cases found with
  | none => simp
  | some text => simp [encode_eq_nil_iff]

theorem isSingleDot_encode (text : Text) :
    isSingleDot (Percent.encode Percent.inPath text) = isSingleDot text := by
  rw [Bool.eq_iff_iff, isSingleDot, isSingleDot, beq_iff_eq, beq_iff_eq, afterDot?_encode]
  exact map_encode_eq_some_nil

theorem isDoubleDot_encode (text : Text) :
    isDoubleDot (Percent.encode Percent.inPath text) = isDoubleDot text := by
  rw [Bool.eq_iff_iff, isDoubleDot, isDoubleDot, beq_iff_eq, beq_iff_eq, afterDot?_encode]
  cases afterDot? text with
  | none => simp
  | some rest =>
      rw [Option.map_some, Option.bind_some, Option.bind_some, afterDot?_encode]
      exact map_encode_eq_some_nil

/-! ## Segments -/

/-- A piece of a path that stays one segment of its own: it holds no separator
and stands for no directory. -/
structure StaysSegment (piece : Text) : Prop where
  noSlash : '/' ∉ piece
  noBackslash : '\\' ∉ piece
  single : isSingleDot piece = false
  double : isDoubleDot piece = false

theorem cutSegments_eq_split {text : Text} (h : '\\' ∉ text) :
    cutSegments true text = Text.split '/' text := by
  induction text with
  | nil => rfl
  | cons c rest ih =>
      simp only [List.mem_cons, not_or] at h
      have hc : (c == '\\') = false := beq_eq_false_iff_ne.mpr (Ne.symm h.1)
      rw [cutSegments, Text.split, ih h.2]
      cases Text.split '/' rest <;> simp [isSeparator, hc]

theorem cutSegments_join {pieces : List Text} (hne : pieces ≠ [])
    (h : ∀ piece ∈ pieces, StaysSegment piece) :
    cutSegments true (Text.join '/' pieces) = pieces := by
  have hbackslash : '\\' ∉ Text.join '/' pieces := by
    intro hmem
    rcases Text.mem_join hmem with hslash | ⟨piece, hpiece, hmem⟩
    · exact absurd hslash (by decide)
    · exact (h piece hpiece).noBackslash hmem
  rw [cutSegments_eq_split hbackslash]
  exact Text.split_join hne fun piece hpiece => (h piece hpiece).noSlash

theorem resolveOnto_eq {pieces : List Text} (stack : List Text)
    (h : ∀ piece ∈ pieces, isSingleDot piece = false ∧ isDoubleDot piece = false) :
    resolveOnto stack pieces = pieces.reverse ++ stack := by
  induction pieces generalizing stack with
  | nil => rfl
  | cons piece rest ih =>
      obtain ⟨hsingle, hdouble⟩ := h piece (by simp)
      cases rest with
      | nil => simp [resolveOnto, hsingle, hdouble]
      | cons next more =>
          rw [resolveOnto]
          simp only [hsingle, hdouble, Bool.false_eq_true, if_false]
          rw [ih (piece :: stack) fun p hp => h p (List.mem_cons_of_mem piece hp)]
          simp

/-- **Pieces that stay segments are read as the segments of a path**, each
percent-encoded. -/
theorem readSegments_join {pieces : List Text} (hne : pieces ≠ [])
    (h : ∀ piece ∈ pieces, StaysSegment piece) :
    readSegments true (Text.join '/' pieces) =
      pieces.map (Percent.encode Percent.inPath) := by
  rw [readSegments, cutSegments_join hne h, resolve, resolveOnto_eq]
  · simp
  · intro segment hsegment
    obtain ⟨piece, hpiece, rfl⟩ := List.mem_map.mp hsegment
    rw [isSingleDot_encode, isDoubleDot_encode]
    exact ⟨(h piece hpiece).single, (h piece hpiece).double⟩

/-! ## Segments that were read -/

theorem cutSegments_eq_splitOnP (special : Bool) (text : Text) :
    cutSegments special text = text.splitOnP (isSeparator special) := by
  induction text with
  | nil => rfl
  | cons c text ih =>
      rw [cutSegments, List.splitOnP_cons_eq_if_modifyHead, ih]
      obtain ⟨first, rest, hsplit⟩ :=
        List.exists_cons_of_ne_nil (List.splitOnP_ne_nil (isSeparator special) text)
      rw [hsplit, List.modifyHead_cons]

theorem mem_cutSegments {text piece : Text} (hp : piece ∈ cutSegments true text) {c : Char}
    (hc : c ∈ piece) : isSeparator true c = false := by
  rw [cutSegments_eq_splitOnP] at hp
  exact (Text.mem_of_mem_splitOnP hp hc).2

theorem cutSegments_ne_nil (text : Text) : cutSegments true text ≠ [] := by
  rw [cutSegments_eq_splitOnP]
  exact List.splitOnP_ne_nil _ text

/-- A segment of a path as the reader leaves it: encoded, and no dot segment. -/
structure IsSegment (segment : Text) : Prop extends StaysSegment segment where
  encoded : ∀ c ∈ segment, Percent.inPath c = false

theorem isSegment_nil : IsSegment [] where
  noSlash := by simp
  noBackslash := by simp
  single := rfl
  double := rfl
  encoded := by simp

/-- What holds of each piece that stands for no directory, and of the empty
segment, holds of every segment that is left. -/
theorem resolveOnto_forall {P : Text → Prop} (hnil : P []) {pieces stack : List Text}
    (hpieces : ∀ piece ∈ pieces, isSingleDot piece = false → isDoubleDot piece = false →
      P piece)
    (hstack : ∀ segment ∈ stack, P segment) :
    ∀ segment ∈ resolveOnto stack pieces, P segment := by
  have hdrop {stack : List Text} (hstack : ∀ segment ∈ stack, P segment) :
      ∀ segment ∈ dropLastSegment stack, P segment := by
    intro segment hsegment
    unfold dropLastSegment at hsegment
    split at hsegment
    · cases hsegment
    · split at hsegment
      · exact hstack segment hsegment
      · exact hstack segment (List.mem_cons_of_mem _ hsegment)
  induction pieces generalizing stack with
  | nil => exact hstack
  | cons piece rest ih =>
      have hrest := fun p hp => hpieces p (List.mem_cons_of_mem piece hp)
      have hpush : isDoubleDot piece ≠ true → isSingleDot piece ≠ true →
          ∀ segment ∈ piece :: stack, P segment := by
        intro hdouble hsingle
        exact List.forall_mem_cons.mpr
          ⟨hpieces piece (by simp) (by simpa using hsingle) (by simpa using hdouble), hstack⟩
      cases rest with
      | nil =>
          rw [resolveOnto]
          split
          · exact List.forall_mem_cons.mpr ⟨hnil, hdrop hstack⟩
          · rename_i hdouble
            split
            · exact List.forall_mem_cons.mpr ⟨hnil, hstack⟩
            · rename_i hsingle
              exact hpush hdouble hsingle
      | cons next more =>
          rw [resolveOnto]
          split
          · exact ih hrest (hdrop hstack)
          · rename_i hdouble
            split
            · exact ih hrest hstack
            · rename_i hsingle
              exact ih hrest (hpush hdouble hsingle)

theorem resolveOnto_ne_nil {pieces : List Text} (h : pieces ≠ []) (stack : List Text) :
    resolveOnto stack pieces ≠ [] := by
  induction pieces generalizing stack with
  | nil => exact absurd rfl h
  | cons piece rest ih =>
      cases rest with
      | nil =>
          rw [resolveOnto]
          split
          · simp
          · split <;> simp
      | cons next more =>
          rw [resolveOnto]
          split
          · exact ih (by simp) _
          · split <;> exact ih (by simp) _

/-- The segments of a path that was read. -/
theorem isSegment_of_readSegments {text segment : Text}
    (h : segment ∈ readSegments true text) : IsSegment segment := by
  refine resolveOnto_forall isSegment_nil ?_ (by simp) segment (List.mem_reverse.mp h)
  intro segment hsegment hsingle hdouble
  obtain ⟨piece, hpiece, rfl⟩ := List.mem_map.mp hsegment
  have hkeeps {c : Char} (hesc : Percent.inEscape c = false) (hsep : isSeparator true c = true) :
      c ∉ Percent.encode Percent.inPath piece := by
    intro hmem
    rcases Percent.mem_encode hmem with hyes | ⟨hmem, -⟩
    · rw [hesc] at hyes
      cases hyes
    · rw [mem_cutSegments hpiece hmem] at hsep
      cases hsep
  exact {
    noSlash := hkeeps (by decide) rfl
    noBackslash := hkeeps (by decide) rfl
    single := hsingle
    double := hdouble
    encoded := fun c hc => Percent.not_set_of_mem_encode Percent.sparesEscapes_inPath hc }

theorem readSegments_ne_nil (text : Text) : readSegments true text ≠ [] := by
  rw [readSegments, resolve, ne_eq, List.reverse_eq_nil_iff]
  exact resolveOnto_ne_nil (by simpa using cutSegments_ne_nil text) []

end JobsGateway.Url
