import JobsGateway.Text.Utf8

/-!
# Cutting a text at a mark

`split` cuts a text at every occurrence of a mark, `join` puts the pieces together with the mark
between them. Joining what was cut gives the text back, and pieces that do not hold the mark come
back from their joint text.
-/

namespace JobsGateway.Text

/-- The pieces between the marks. There is one piece more than there are marks. -/
def split (mark : Char) : Text → List Text
  | [] => [[]]
  | c :: rest =>
    if c = mark then [] :: split mark rest
    else match split mark rest with
      | [] => [[c]]
      | piece :: pieces => (c :: piece) :: pieces

/-- The pieces with the mark between them. -/
def join (mark : Char) : List Text → Text
  | [] => []
  | [piece] => piece
  | piece :: next :: rest => piece ++ mark :: join mark (next :: rest)

theorem split_ne_nil (mark : Char) (text : Text) : split mark text ≠ [] := by
  cases text with
  | nil => simp [split]
  | cons c rest =>
    simp only [split]
    split
    · simp
    · split <;> simp

theorem join_cons (mark : Char) (piece : Text) {pieces : List Text} (h : pieces ≠ []) :
    join mark (piece :: pieces) = piece ++ mark :: join mark pieces := by
  cases pieces with
  | nil => exact absurd rfl h
  | cons next rest => rfl

theorem join_split (mark : Char) (text : Text) : join mark (split mark text) = text := by
  induction text with
  | nil => rfl
  | cons c rest ih =>
    simp only [split]
    split
    · rename_i h
      rw [join_cons mark [] (split_ne_nil mark rest), ih, h]
      rfl
    · cases hs : split mark rest with
      | nil => exact absurd hs (split_ne_nil mark rest)
      | cons piece pieces =>
        rw [hs] at ih
        cases pieces with
        | nil => simp only [join] at ih ⊢; rw [ih]
        | cons next more => simp only [join, List.cons_append] at ih ⊢; rw [ih]

theorem split_append_mark {mark : Char} {piece : Text} (h : mark ∉ piece) (rest : Text) :
    split mark (piece ++ mark :: rest) = piece :: split mark rest := by
  induction piece with
  | nil => simp [split]
  | cons c piece ih =>
    simp only [List.mem_cons, not_or] at h
    simp only [List.cons_append, split, ih h.2, if_neg (Ne.symm h.1)]

theorem split_eq_self {mark : Char} {piece : Text} (h : mark ∉ piece) :
    split mark piece = [piece] := by
  induction piece with
  | nil => rfl
  | cons c piece ih =>
    simp only [List.mem_cons, not_or] at h
    simp only [split, ih h.2, if_neg (Ne.symm h.1)]

theorem split_join {mark : Char} {pieces : List Text} (hne : pieces ≠ [])
    (h : ∀ piece ∈ pieces, mark ∉ piece) : split mark (join mark pieces) = pieces := by
  induction pieces with
  | nil => exact absurd rfl hne
  | cons piece rest ih =>
    cases rest with
    | nil => exact split_eq_self (h piece (by simp))
    | cons next more =>
      rw [join_cons mark piece (by simp), split_append_mark (h piece (by simp)),
        ih (by simp) fun p hp => h p (by simp [hp])]

/-- A text without the mark at its front, however often it stands there. -/
def dropLeading (mark : Char) (text : Text) : Text :=
  text.dropWhile (· == mark)

end JobsGateway.Text
