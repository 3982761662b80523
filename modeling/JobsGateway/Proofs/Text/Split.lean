import JobsGateway.Text.Split
import Mathlib.Data.List.DropRight

/-!
# Pieces of a text

The pieces between two marks hold characters of the text and no mark. A text
that is cut at the first character of some kind comes apart where it was put
together.
-/

namespace JobsGateway.Text

variable {mark : Char}

/-! ## Pieces between marks -/

theorem mem_of_mem_splitOnP {p : Char → Bool} {text piece : Text}
    (hp : piece ∈ text.splitOnP p) {c : Char} (hc : c ∈ piece) : c ∈ text ∧ p c = false := by
  induction text generalizing piece with
  | nil =>
      rw [List.splitOnP_nil, List.mem_singleton] at hp
      rw [hp] at hc
      cases hc
  | cons d text ih =>
      rw [List.splitOnP_cons_eq_if_modifyHead] at hp
      split at hp
      · rcases List.mem_cons.mp hp with rfl | hp
        · cases hc
        · obtain ⟨hmem, hne⟩ := ih hp hc
          exact ⟨List.mem_cons_of_mem d hmem, hne⟩
      · rename_i hd
        -- The character goes on the front of the first piece of what follows.
        obtain ⟨first, rest, hsplit⟩ :=
          List.exists_cons_of_ne_nil (List.splitOnP_ne_nil p text)
        rw [hsplit, List.modifyHead_cons] at hp
        rw [hsplit] at ih
        rcases List.mem_cons.mp hp with rfl | hp
        · rcases List.mem_cons.mp hc with rfl | hc
          · exact ⟨by simp, by simpa using hd⟩
          · obtain ⟨hmem, hne⟩ := ih (by simp) hc
            exact ⟨List.mem_cons_of_mem d hmem, hne⟩
        · obtain ⟨hmem, hne⟩ := ih (List.mem_cons_of_mem first hp) hc
          exact ⟨List.mem_cons_of_mem d hmem, hne⟩

theorem mem_of_mem_splitOn {text piece : Text} (hp : piece ∈ text.splitOn mark) {c : Char}
    (hc : c ∈ piece) : c ∈ text ∧ c ≠ mark := by
  rw [List.splitOn_eq_splitOnP] at hp
  obtain ⟨hmem, hne⟩ := mem_of_mem_splitOnP hp hc
  exact ⟨hmem, by simpa using hne⟩

theorem mem_intercalate {pieces : List Text} {c : Char} (h : c ∈ [mark].intercalate pieces) :
    c = mark ∨ ∃ piece ∈ pieces, c ∈ piece := by
  induction pieces with
  | nil => cases h
  | cons piece rest ih =>
      cases rest with
      | nil =>
          rw [List.intercalate_singleton] at h
          exact Or.inr ⟨piece, by simp, h⟩
      | cons next more =>
          rw [List.intercalate_cons_cons] at h
          simp only [List.mem_append, List.mem_singleton] at h
          rcases h with (h | h) | h
          · exact Or.inr ⟨piece, by simp, h⟩
          · exact Or.inl h
          · rcases ih h with h | ⟨p, hp, hc⟩
            · exact Or.inl h
            · exact Or.inr ⟨p, List.mem_cons_of_mem piece hp, hc⟩

theorem split_eq_splitOn (mark : Char) (text : Text) : split mark text = text.splitOn mark := by
  induction text with
  | nil => rfl
  | cons c text ih =>
      rw [split, List.splitOn_cons_eq_if_modifyHead, ih]
      by_cases hc : c = mark
      · rw [if_pos hc, if_pos (beq_iff_eq.mpr hc)]
      · rw [if_neg hc, if_neg (by simpa using hc)]
        obtain ⟨first, rest, hsplit⟩ :=
          List.exists_cons_of_ne_nil (List.splitOn_ne_nil mark text)
        rw [hsplit, List.modifyHead_cons]

theorem join_eq_intercalate (mark : Char) (pieces : List Text) :
    join mark pieces = [mark].intercalate pieces := by
  induction pieces with
  | nil => rfl
  | cons piece rest ih =>
      cases rest with
      | nil => rw [join, List.intercalate_singleton]
      | cons next more => rw [join, ih, List.intercalate_cons_cons, List.append_cons]

theorem mem_of_mem_split {text piece : Text} (hp : piece ∈ split mark text) {c : Char}
    (hc : c ∈ piece) : c ∈ text ∧ c ≠ mark := by
  rw [split_eq_splitOn] at hp
  exact mem_of_mem_splitOn hp hc

theorem mem_join {pieces : List Text} {c : Char} (h : c ∈ join mark pieces) :
    c = mark ∨ ∃ piece ∈ pieces, c ∈ piece := by
  rw [join_eq_intercalate] at h
  exact mem_intercalate h

theorem mark_cons_join {pieces : List Text} (h : pieces ≠ []) :
    mark :: join mark pieces = pieces.flatMap (mark :: ·) := by
  induction pieces with
  | nil => exact absurd rfl h
  | cons piece rest ih =>
      cases rest with
      | nil => simp [join]
      | cons next more =>
          rw [join_cons mark piece (by simp), ih (by simp)]
          rfl

/-! ## Cutting at the first character of a kind -/

section Cut

variable {p : Char → Bool} {front : Text}

theorem bne_of_notMem {text : Text} (h : mark ∉ text) : ∀ c ∈ text, (c != mark) = true := by
  intro c hc
  rw [bne_iff_ne]
  rintro rfl
  exact h hc

theorem takeWhile_append_mark (hfront : ∀ c ∈ front, p c = true) (hmark : p mark = false)
    (rest : Text) : (front ++ mark :: rest).takeWhile p = front := by
  rw [List.takeWhile_append_of_pos hfront, List.takeWhile_cons_of_neg (by simp [hmark]),
    List.append_nil]

theorem dropWhile_append_mark (hfront : ∀ c ∈ front, p c = true) (hmark : p mark = false)
    (rest : Text) : (front ++ mark :: rest).dropWhile p = mark :: rest := by
  rw [List.dropWhile_append_of_pos hfront, List.dropWhile_cons_of_neg (by simp [hmark])]

theorem dropWhile_eq_self_of_head (h : ∀ c, front.head? = some c → p c = false) :
    front.dropWhile p = front := by
  cases front with
  | nil => rfl
  | cons c rest => rw [List.dropWhile_cons_of_neg (by simp [h c rfl])]

end Cut

/-! ## Dropping marks at the end -/

theorem rdropWhile_append {p : Char → Bool} (front : Text) {back : Text}
    (h : back.rdropWhile p ≠ []) :
    (front ++ back).rdropWhile p = front ++ back.rdropWhile p := by
  simp only [List.rdropWhile, List.reverse_append, List.dropWhile_append]
  rw [if_neg (by simpa [List.rdropWhile] using h)]
  simp

theorem rdropWhile_append_of_eq_self {p : Char → Bool} {front : Text}
    (h : front.rdropWhile p = front) (back : Text) :
    (front ++ back).rdropWhile p = front ++ back.rdropWhile p := by
  by_cases hback : back.rdropWhile p = []
  · rw [hback, List.append_nil, ← h]
    simp only [List.rdropWhile, List.reverse_eq_nil_iff] at hback h ⊢
    rw [List.reverse_append, List.dropWhile_append, if_pos (by simp [hback])]
    simp [h]
  · exact rdropWhile_append front hback

/-- A character that is not dropped keeps what is before it. -/
theorem rdropWhile_append_cons {p : Char → Bool} {c : Char} (hc : p c = false)
    (front rest : Text) :
    ∃ kept, kept <+: rest ∧ (front ++ c :: rest).rdropWhile p = front ++ c :: kept := by
  have hne : (c :: rest).rdropWhile p ≠ [] := by
    rw [ne_eq, List.rdropWhile_eq_nil_iff]
    intro hall
    rw [hall c List.mem_cons_self] at hc
    cases hc
  obtain ⟨d, kept, hkept⟩ := List.exists_cons_of_ne_nil hne
  have hprefix := List.rdropWhile_prefix p (c :: rest)
  rw [hkept] at hprefix
  obtain ⟨rfl, hkeptPrefix⟩ := List.cons_prefix_cons.mp hprefix
  exact ⟨kept, hkeptPrefix, by rw [rdropWhile_append front hne, hkept]⟩

/-- The marks at the end of a row of pieces belong to its empty last pieces. -/
theorem rdropWhile_flatMap {pieces : List Text} (h : ∀ piece ∈ pieces, mark ∉ piece) :
    (pieces.flatMap (mark :: ·)).rdropWhile (· == mark) =
      (pieces.rdropWhile List.isEmpty).flatMap (mark :: ·) := by
  -- Marks are dropped from the end, so the pieces are taken from there.
  induction pieces using List.reverseRecOn with
  | nil => rfl
  | append_singleton pieces last ih =>
      have hpieces := fun piece hpiece => h piece (List.mem_append_left [last] hpiece)
      cases last with
      | nil =>
          rw [List.rdropWhile_concat_pos _ _ _ (by rfl), ← ih hpieces]
          simp only [List.flatMap_append, List.flatMap_singleton]
          exact List.rdropWhile_concat_pos _ _ _ (by simp)
      | cons c rest =>
          have hself : (mark :: c :: rest).rdropWhile (· == mark) = mark :: c :: rest := by
            rw [List.rdropWhile_eq_self_iff]
            intro hne
            have hmem := List.getLast_mem (List.cons_ne_nil c rest)
            rw [List.getLast_cons (List.cons_ne_nil c rest), beq_iff_eq]
            exact fun heq => h (c :: rest) (by simp) (heq ▸ hmem)
          rw [List.rdropWhile_concat_neg _ _ _ (by simp)]
          simp only [List.flatMap_append, List.flatMap_singleton]
          rw [rdropWhile_append _ (by simp [hself]), hself]

end JobsGateway.Text
