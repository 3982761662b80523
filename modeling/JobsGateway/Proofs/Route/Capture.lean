import JobsGateway.Proofs.Url.Path
import JobsGateway.Route.Table

/-!
# The pieces of a backend path

A backend path consists of the literals of the template and of captured values.
Each of them is a segment of its own for a URL reader as well: the guard on
captured values knows every spelling of a dot that the reader knows, and refuses
backslashes.
-/

namespace JobsGateway

open Url (StaysSegment isSingleDot isDoubleDot afterDot?)

/-! ## The guard -/

theorem plainDots_of_afterDot? {text rest : Text} (h : afterDot? text = some rest) :
    plainDots text = '.' :: plainDots rest := by
  rcases Url.afterDot?_eq_some_iff.mp h with rfl | rfl | rfl <;> rfl

theorem plainDots_of_single {text : Text} (h : isSingleDot text = true) :
    plainDots text = ['.'] := by
  rw [isSingleDot, beq_iff_eq] at h
  rw [plainDots_of_afterDot? h]
  rfl

theorem plainDots_of_double {text : Text} (h : isDoubleDot text = true) :
    plainDots text = ['.', '.'] := by
  rw [isDoubleDot, beq_iff_eq] at h
  obtain ⟨rest, hfirst, hsecond⟩ := Option.bind_eq_some_iff.mp h
  rw [plainDots_of_afterDot? hfirst, plainDots_of_afterDot? hsecond]
  rfl

/-- What the guard lets through stays one segment of its own in a URL. -/
theorem staysSegment_of_safe {value : Text} (hslash : '/' ∉ value)
    (h : isUnsafe value = false) : StaysSegment value := by
  simp only [isUnsafe, Bool.or_eq_false_iff, decide_eq_false_iff_not] at h
  obtain ⟨⟨hbackslash, hsingle⟩, hdouble⟩ := h
  exact {
    noSlash := hslash
    noBackslash := by
      rw [← List.contains_iff_mem, hbackslash]
      simp
    single := Bool.eq_false_iff.mpr fun hdot => hsingle (plainDots_of_single hdot)
    double := Bool.eq_false_iff.mpr fun hdot => hdouble (plainDots_of_double hdot) }

namespace Route

/-- A captured value is a piece of the path that the guard lets through. -/
theorem of_mem_captureSegments {pattern : List Segment} {pieces : List Text}
    {captured : Captured} (h : captureSegments pattern pieces = some captured)
    {name value : Text} (hmem : (name, value) ∈ captured) :
    value ∈ pieces ∧ value ≠ [] ∧ isUnsafe value = false := by
  induction pattern generalizing pieces captured with
  | nil =>
      cases pieces with
      | nil =>
          cases h
          cases hmem
      | cons actual pieces => cases h
  | cons segment pattern ih =>
      cases pieces with
      | nil => cases segment <;> cases h
      | cons actual pieces =>
          cases segment with
          | literal text =>
              rw [captureSegments] at h
              split at h
              · obtain ⟨hin, hrest⟩ := ih h hmem
                exact ⟨List.mem_cons_of_mem actual hin, hrest⟩
              · cases h
          | param parameter =>
              rw [captureSegments] at h
              split at h
              · cases h
              · rename_i hguard
                simp only [Bool.or_eq_true, decide_eq_true_eq, not_or, Bool.not_eq_true] at hguard
                obtain ⟨more, hmore, rfl⟩ := Option.map_eq_some_iff.mp h
                rcases List.mem_cons.mp hmem with heq | hmem
                · obtain ⟨-, rfl⟩ := Prod.mk.inj heq
                  exact ⟨by simp, hguard⟩
                · obtain ⟨hin, hrest⟩ := ih hmore hmem
                  exact ⟨List.mem_cons_of_mem actual hin, hrest⟩

/-- The characters of literals. -/
def isLiteralChar (c : Char) : Bool :=
  c.isLower || c == '-'

/-- A literal of a template that stays a segment. -/
def isGoodLiteral (text : Text) : Bool :=
  text != [] && text.all isLiteralChar

/-- The literals of all templates are words. -/
theorem isGoodLiteral_of_table {route : Route} (hroute : route ∈ table) {text : Text}
    (h : .literal text ∈ route.templateSegments) : isGoodLiteral text = true := by
  have hall : table.all (fun r => r.templateSegments.all fun segment =>
      (fillSegment [] segment).all isGoodLiteral) = true := by decide +kernel
  exact List.all_eq_true.mp (List.all_eq_true.mp hall route hroute) _ h

theorem staysSegment_of_goodLiteral {text : Text} (h : isGoodLiteral text = true) :
    StaysSegment text := by
  rw [isGoodLiteral, Bool.and_eq_true, List.all_eq_true] at h
  have hnot {c : Char} (hc : isLiteralChar c = false) : c ∉ text := by
    intro hmem
    rw [h.2 c hmem] at hc
    cases hc
  -- A literal has neither dots nor percent signs, so it spells no directory.
  have hdot : afterDot? text = none := by
    rw [Option.eq_none_iff_forall_ne_some]
    intro rest hrest
    rcases Url.afterDot?_eq_some_iff.mp hrest with rfl | rfl | rfl
    · exact hnot (by decide) List.mem_cons_self
    · exact hnot (by decide) List.mem_cons_self
    · exact hnot (by decide) List.mem_cons_self
  exact {
    noSlash := hnot (by decide)
    noBackslash := hnot (by decide)
    single := by rw [isSingleDot, hdot]; rfl
    double := by rw [isDoubleDot, hdot]; rfl }

theorem mapM_eq_some_iff {f : Segment → Option Text} {segments : List Segment}
    {pieces : List Text} :
    segments.mapM f = some pieces ↔ segments.map f = pieces.map some := by
  induction segments generalizing pieces with
  | nil =>
      rw [List.map_nil, eq_comm (a := []), List.map_eq_nil_iff]
      show some [] = some pieces ↔ pieces = []
      rw [Option.some.injEq, eq_comm]
  | cons segment segments ih =>
      rw [List.mapM_cons, List.map_cons]
      constructor
      · intro h
        obtain ⟨first, hfirst, h⟩ := Option.bind_eq_some_iff.mp h
        obtain ⟨rest, hrest, h⟩ := Option.bind_eq_some_iff.mp h
        cases h
        rw [hfirst, ih.mp hrest, List.map_cons]
      · intro h
        cases pieces with
        | nil => cases h
        | cons first rest =>
            obtain ⟨hfirst, hrest⟩ := List.cons.inj h
            rw [hfirst, ih.mpr hrest]
            rfl

theorem mem_of_mapM {f : Segment → Option Text} {segments : List Segment} {pieces : List Text}
    (h : segments.mapM f = some pieces) {piece : Text} (hpiece : piece ∈ pieces) :
    ∃ segment ∈ segments, f segment = some piece := by
  have hmem : some piece ∈ segments.map f :=
    mapM_eq_some_iff.mp h ▸ List.mem_map_of_mem hpiece
  exact List.mem_map.mp hmem

/-- A piece of a backend path: not empty, a segment of its own, and of
characters of the inbound path and of literals. -/
structure IsPiece (path piece : Text) : Prop where
  nonempty : piece ≠ []
  stays : StaysSegment piece
  chars : ∀ c ∈ piece, c ∈ path ∨ isLiteralChar c = true

theorem isPiece_of_captured {route : Route} {path name value : Text} {captured : Captured}
    (h : route.capture path = some captured) (hmem : (name, value) ∈ captured) :
    IsPiece path value := by
  obtain ⟨hin, hne, hsafe⟩ := of_mem_captureSegments h hmem
  have hchars {c : Char} (hc : c ∈ value) : c ∈ path ∧ c ≠ '/' := by
    obtain ⟨hmem, hslash⟩ := Text.mem_of_mem_split hin hc
    exact ⟨List.dropWhile_subset _ hmem, hslash⟩
  exact {
    nonempty := hne
    stays := staysSegment_of_safe (fun hc => (hchars hc).2 rfl) hsafe
    chars := fun c hc => Or.inl (hchars hc).1 }

theorem isPiece_of_literal {path text : Text} (h : isGoodLiteral text = true) :
    IsPiece path text := by
  have hgood := h
  rw [isGoodLiteral, Bool.and_eq_true, bne_iff_ne, List.all_eq_true] at h
  exact ⟨h.1, staysSegment_of_goodLiteral hgood, fun c hc => Or.inr (h.2 c hc)⟩

/-- **A backend path is a row of pieces.** -/
theorem pieces_of_backendPath {route : Route} (hroute : route ∈ table) {path u : Text}
    (hu : route.backendPath path = some u) :
    ∃ pieces, u = Text.join '/' pieces ∧ pieces ≠ [] ∧ ∀ p ∈ pieces, IsPiece path p := by
  obtain ⟨captured, hcaptured, hu⟩ := Option.bind_eq_some_iff.mp hu
  obtain ⟨pieces, hpieces, hu⟩ := Option.bind_eq_some_iff.mp hu
  refine ⟨pieces, (Option.some.inj hu).symm, ?_, fun p hp => ?_⟩
  · -- Even an empty template has one segment.
    rintro rfl
    have hnil := mapM_eq_some_iff.mp hpieces
    rw [List.map_nil, List.map_eq_nil_iff, templateSegments, List.map_eq_nil_iff] at hnil
    exact Text.split_ne_nil '/' route.template hnil
  · obtain ⟨segment, hsegment, hfill⟩ := mem_of_mapM hpieces hp
    cases segment with
    | literal text =>
        cases hfill
        exact isPiece_of_literal (isGoodLiteral_of_table hroute hsegment)
    | param name =>
        obtain ⟨before, after, rfl, -⟩ := List.lookup_eq_some_iff.mp hfill
        exact isPiece_of_captured hcaptured (List.mem_append_right before List.mem_cons_self)

end Route

end JobsGateway
