import JobsGateway.Http.Fields

/-!
# The values of header fields

Every operation on a list of fields is described by what it does to the values
of a name. Names are held in lower case, and a header that is asked for a name
in any case answers with the values of its lower-case form.
-/

namespace JobsGateway.Fields

/-- All values of a name that is given in any case. -/
def named (fields : Fields) (name : Text) : List Bytes :=
  fields.values (name.map Char.toLower)

/-- Two headers that cannot be told apart: every name has the same values, in
the same order. -/
def Same (a b : Fields) : Prop :=
  ∀ name, a.named name = b.named name

@[simp] theorem values_nil (name : Text) : values [] name = [] := rfl

@[simp] theorem values_append (a b : Fields) (name : Text) :
    (a ++ b).values name = a.values name ++ b.values name := by
  simp [values]

theorem values_cons (f : Field) (fields : Fields) (name : Text) :
    values (f :: fields) name =
      if f.name = name then f.value :: fields.values name
      else fields.values name := by
  by_cases h : f.name = name <;> simp [values, h]

theorem values_without (fields : Fields) (names : List Text) (name : Text) :
    (fields.without names).values name =
      if name ∈ names then [] else fields.values name := by
  induction fields with
  | nil => simp [without]
  | cons f fields ih =>
      unfold without at ih ⊢
      by_cases hf : f.name ∈ names
      · rw [List.filter_cons_of_neg (by simp [hf]), ih, values_cons]
        by_cases hn : f.name = name
        · rw [if_pos (hn ▸ hf), if_pos (hn ▸ hf)]
        · rw [if_neg hn]
      · rw [List.filter_cons_of_pos (by simp [hf]), values_cons, values_cons, ih]
        by_cases hn : f.name = name
        · rw [if_pos hn, if_pos hn, if_neg (hn ▸ hf), if_neg (hn ▸ hf)]
        · rw [if_neg hn, if_neg hn]

theorem named_append_of_ne (fields : Fields) {f : Field} {name : Text}
    (h : f.name ≠ name.map Char.toLower) : (fields ++ [f]).named name = fields.named name := by
  rw [named, named, values_append, values_cons, if_neg h, values_nil, List.append_nil]

theorem values_eq_nil_iff (fields : Fields) (name : Text) :
    fields.values name = [] ↔ ∀ f ∈ fields, f.name ≠ name := by
  simp [values]

theorem has_eq_true_iff (fields : Fields) (name : Text) :
    fields.has name = true ↔ ∃ f ∈ fields, f.name = name := by
  simp [has]

theorem has_eq_false_iff (fields : Fields) (name : Text) :
    fields.has name = false ↔ fields.values name = [] := by
  rw [← Bool.not_eq_true, has_eq_true_iff, values_eq_nil_iff]
  simp only [not_exists, not_and, ne_eq]

theorem has_iff_values_ne_nil (fields : Fields) (name : Text) :
    fields.has name = true ↔ fields.values name ≠ [] := by
  rw [ne_eq, ← has_eq_false_iff, Bool.not_eq_false]

end JobsGateway.Fields
