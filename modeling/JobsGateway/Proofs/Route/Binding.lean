import JobsGateway.Proofs.Route.Capture
import JobsGateway.Proofs.Route.Selection

/-!
# The values of a path

A pattern that fits a path binds each of its parameters to the segment that
stands at its place. Capturing gives just these values, or nothing if one of
them would mislead a reader of URLs.
-/

namespace JobsGateway

open Url (isSingleDot isDoubleDot afterDot?)

/-! ## The guard is exact -/

/-- A value that is not one segment of its own for a reader of URLs: it is a dot
segment in some spelling, or holds a backslash. -/
def Misleads (value : Text) : Prop :=
  isSingleDot value = true ∨ isDoubleDot value = true ∨ '\\' ∈ value

instance (value : Text) : Decidable (Misleads value) :=
  inferInstanceAs (Decidable (_ ∨ _ ∨ _))

theorem plainDots_eq_nil_iff {text : Text} : plainDots text = [] ↔ text = [] := by
  constructor
  · intro h
    fun_cases plainDots text with
    | case1 => cases h
    | case2 => cases h
    | case3 c more hlower hupper =>
        rw [plainDots] at h
        · cases h
        · exact hlower
        · exact hupper
    | case4 => rfl
  · rintro rfl
    rfl

/-- The first of the plain dots stands for a dot in some spelling. -/
theorem afterDot?_of_plainDots {text rest : Text} (h : plainDots text = '.' :: rest) :
    ∃ more, afterDot? text = some more ∧ plainDots more = rest := by
  fun_cases plainDots text with
  | case1 more =>
      cases h
      exact ⟨more, rfl, rfl⟩
  | case2 more =>
      cases h
      exact ⟨more, rfl, rfl⟩
  | case3 c more hlower hupper =>
      rw [plainDots] at h
      · obtain ⟨rfl, rfl⟩ := List.cons.inj h
        exact ⟨more, rfl, rfl⟩
      · exact hlower
      · exact hupper
  | case4 => cases h

theorem isSingleDot_iff {value : Text} : isSingleDot value = true ↔ plainDots value = ['.'] := by
  constructor
  · exact plainDots_of_single
  · intro h
    obtain ⟨more, hafter, hmore⟩ := afterDot?_of_plainDots h
    rw [isSingleDot, hafter, plainDots_eq_nil_iff.mp hmore]
    rfl

theorem isDoubleDot_iff {value : Text} :
    isDoubleDot value = true ↔ plainDots value = ['.', '.'] := by
  constructor
  · exact plainDots_of_double
  · intro h
    obtain ⟨more, hafter, hmore⟩ := afterDot?_of_plainDots h
    obtain ⟨last, hlast, hnil⟩ := afterDot?_of_plainDots hmore
    rw [isDoubleDot, hafter, Option.bind_some, hlast, plainDots_eq_nil_iff.mp hnil]
    rfl

/-- The guard refuses a value exactly if a reader of URLs would be misled. -/
theorem isUnsafe_iff {value : Text} : isUnsafe value = true ↔ Misleads value := by
  rw [isUnsafe, Misleads, isSingleDot_iff, isDoubleDot_iff]
  simp only [Bool.or_eq_true, decide_eq_true_eq, List.contains_iff_mem]
  constructor
  · rintro ((h | h) | h)
    · exact Or.inr (Or.inr h)
    · exact Or.inl h
    · exact Or.inr (Or.inl h)
  · rintro (h | h | h)
    · exact Or.inl (Or.inr h)
    · exact Or.inr h
    · exact Or.inl (Or.inl h)

namespace Route

/-! ## What is captured -/

/-- The parameters of a pattern with the segments at their places. -/
def bindings : List Segment → List Text → Captured
  | .param name :: pattern, value :: path => (name, value) :: bindings pattern path
  | .literal _ :: pattern, _ :: path => bindings pattern path
  | _, _ => []

/-- Segments are captured exactly if the pattern fits and no value misleads, and
then they are the values at the places of the parameters. -/
theorem captureSegments_eq_some_iff {pattern : List Segment} {path : List Text}
    {captured : Captured} :
    captureSegments pattern path = some captured ↔
      Fits pattern path ∧ captured = bindings pattern path ∧
        ∀ b ∈ bindings pattern path, ¬ Misleads b.2 := by
  induction pattern generalizing path captured with
  | nil =>
      cases path with
      | nil =>
          constructor
          · intro h
            cases h
            exact ⟨.done, rfl, by simp [bindings]⟩
          · rintro ⟨-, rfl, -⟩
            rfl
      | cons value path =>
          constructor
          · intro h
            cases h
          · rintro ⟨hfits, -⟩
            cases hfits
  | cons segment pattern ih =>
      cases path with
      | nil =>
          constructor
          · intro h
            cases segment <;> cases h
          · rintro ⟨hfits, -⟩
            cases hfits
      | cons value path =>
          cases segment with
          | literal text =>
              rw [captureSegments, bindings]
              constructor
              · intro h
                split at h
                · rename_i heq
                  obtain ⟨hfits, hrest⟩ := ih.mp h
                  exact ⟨heq ▸ hfits.literal, hrest⟩
                · cases h
              · rintro ⟨hfits, hrest⟩
                cases hfits with
                | literal hfits =>
                    rw [if_pos rfl]
                    exact ih.mpr ⟨hfits, hrest⟩
          | param name =>
              rw [captureSegments, bindings]
              constructor
              · intro h
                split at h
                · cases h
                · rename_i hguard
                  simp only [Bool.or_eq_true, decide_eq_true_eq, not_or] at hguard
                  obtain ⟨more, hmore, rfl⟩ := Option.map_eq_some_iff.mp h
                  obtain ⟨hfits, rfl, hsafe⟩ := ih.mp hmore
                  refine ⟨hfits.param hguard.1, rfl, ?_⟩
                  rintro b hb
                  rcases List.mem_cons.mp hb with rfl | hb
                  · exact fun h => hguard.2 (isUnsafe_iff.mpr h)
                  · exact hsafe b hb
              · rintro ⟨hfits, rfl, hsafe⟩
                cases hfits with
                | param hne hfits =>
                    have hvalue : ¬ Misleads value := hsafe (name, value) List.mem_cons_self
                    have hguard : ¬ (decide (value = []) || isUnsafe value) = true := by
                      rw [Bool.or_eq_true, decide_eq_true_eq, isUnsafe_iff]
                      exact fun h => h.elim hne hvalue
                    have hmore := ih.mpr ⟨hfits, rfl, fun b hb =>
                      hsafe b (List.mem_cons_of_mem _ hb)⟩
                    rw [if_neg hguard, hmore]
                    rfl

end Route

end JobsGateway
