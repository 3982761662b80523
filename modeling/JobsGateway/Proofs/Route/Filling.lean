import JobsGateway.Proofs.Route.Binding

/-!
# Capturing undoes filling

A pattern that is filled with values gives a path, and capturing gives the values
back with the names of the parameters before them. A value may be anything that
is one segment: not empty, without slashes and backslashes, and no dot segment.
There is only one way to fill a pattern so that it gives a certain path.
-/

namespace JobsGateway

open Url (isSingleDot isDoubleDot afterDot?)

/-! ## Values -/

/-- The spellings of a dot. -/
def dots : List Text :=
  [".".toList, "%2e".toList, "%2E".toList]

/-- One dot or two dots, each in any spelling. -/
def IsDotSegment (value : Text) : Prop :=
  value ∈ dots ∨ ∃ first ∈ dots, ∃ second ∈ dots, value = first ++ second

theorem afterDot?_eq_some_iff_dots {text rest : Text} :
    afterDot? text = some rest ↔ ∃ dot ∈ dots, text = dot ++ rest := by
  rw [Url.afterDot?_eq_some_iff]
  simp [dots]

theorem isSingleDot_iff_dots {value : Text} : isSingleDot value = true ↔ value ∈ dots := by
  rw [isSingleDot, beq_iff_eq, afterDot?_eq_some_iff_dots]
  simp

theorem isDoubleDot_iff_dots {value : Text} :
    isDoubleDot value = true ↔ ∃ first ∈ dots, ∃ second ∈ dots, value = first ++ second := by
  rw [isDoubleDot, beq_iff_eq, Option.bind_eq_some_iff]
  constructor
  · rintro ⟨rest, hfirst, hsecond⟩
    obtain ⟨first, hdot, rfl⟩ := afterDot?_eq_some_iff_dots.mp hfirst
    obtain ⟨second, hdot', rfl⟩ := afterDot?_eq_some_iff_dots.mp hsecond
    exact ⟨first, hdot, second, hdot', by rw [List.append_nil]⟩
  · rintro ⟨first, hdot, second, hdot', rfl⟩
    exact ⟨second, afterDot?_eq_some_iff_dots.mpr ⟨first, hdot, rfl⟩,
      afterDot?_eq_some_iff_dots.mpr ⟨second, hdot', by rw [List.append_nil]⟩⟩

theorem misleads_iff {value : Text} : Misleads value ↔ IsDotSegment value ∨ '\\' ∈ value := by
  rw [Misleads, IsDotSegment, isSingleDot_iff_dots, isDoubleDot_iff_dots, or_assoc]

/-- A text that can be the value of a parameter. -/
structure IsValue (value : Text) : Prop where
  nonempty : value ≠ []
  noSlash : '/' ∉ value
  noBackslash : '\\' ∉ value
  noDots : ¬ IsDotSegment value

theorem isValue_iff {value : Text} :
    IsValue value ↔ value ≠ [] ∧ '/' ∉ value ∧ ¬ Misleads value := by
  rw [misleads_iff, not_or]
  constructor
  · intro h
    exact ⟨h.nonempty, h.noSlash, h.noDots, h.noBackslash⟩
  · rintro ⟨hne, hslash, hdots, hbackslash⟩
    exact ⟨hne, hslash, hbackslash, hdots⟩

instance (value : Text) : Decidable (IsValue value) :=
  decidable_of_iff _ isValue_iff.symm

namespace Route

/-! ## Filling segments -/

/-- The names of the parameters of a pattern, in order. -/
def params (pattern : List Segment) : List Text :=
  pattern.filterMap fun
    | .literal _ => none
    | .param name => some name

@[simp] theorem params_nil : params [] = [] := rfl

@[simp] theorem params_literal (text : Text) (pattern : List Segment) :
    params (.literal text :: pattern) = params pattern := rfl

@[simp] theorem params_param (name : Text) (pattern : List Segment) :
    params (.param name :: pattern) = name :: params pattern := rfl

section Segments

variable {pattern : List Segment} {values values' pieces : List Text} {text name : Text}

theorem fillPattern_nil_iff : fillPattern [] values = some pieces ↔ values = [] ∧ pieces = [] := by
  cases values with
  | nil =>
      show some [] = some pieces ↔ _
      simp [eq_comm]
  | cons value values =>
      show none = some pieces ↔ _
      simp

theorem fillPattern_literal_iff :
    fillPattern (.literal text :: pattern) values = some pieces ↔
      ∃ rest, fillPattern pattern values = some rest ∧ pieces = text :: rest := by
  show (fillPattern pattern values).map (text :: ·) = some pieces ↔ _
  rw [Option.map_eq_some_iff]
  simp only [eq_comm]

theorem fillPattern_param_iff :
    fillPattern (.param name :: pattern) values = some pieces ↔
      ∃ value more rest, values = value :: more ∧ fillPattern pattern more = some rest ∧
        pieces = value :: rest := by
  cases values with
  | nil =>
      show none = some pieces ↔ _
      simp
  | cons value more =>
      show (fillPattern pattern more).map (value :: ·) = some pieces ↔ _
      rw [Option.map_eq_some_iff]
      constructor
      · rintro ⟨rest, hrest, rfl⟩
        exact ⟨value, more, rest, rfl, hrest, rfl⟩
      · rintro ⟨_, _, rest, heq, hrest, rfl⟩
        obtain ⟨rfl, rfl⟩ := List.cons.inj heq
        exact ⟨rest, hrest, rfl⟩

/-- There is one value for each parameter. -/
theorem length_of_fillPattern (h : fillPattern pattern values = some pieces) :
    values.length = (params pattern).length := by
  induction pattern generalizing values pieces with
  | nil =>
      obtain ⟨rfl, -⟩ := fillPattern_nil_iff.mp h
      rfl
  | cons segment pattern ih =>
      cases segment with
      | literal text =>
          obtain ⟨rest, hrest, -⟩ := fillPattern_literal_iff.mp h
          exact ih hrest
      | param name =>
          obtain ⟨value, more, rest, rfl, hrest, -⟩ := fillPattern_param_iff.mp h
          rw [List.length_cons, params_param, List.length_cons, ih hrest]

/-- What a pattern was filled with can be read off at the places of its
parameters. -/
theorem fillPattern_injective (h : fillPattern pattern values = some pieces)
    (h' : fillPattern pattern values' = some pieces) : values = values' := by
  induction pattern generalizing values values' pieces with
  | nil =>
      obtain ⟨rfl, -⟩ := fillPattern_nil_iff.mp h
      obtain ⟨rfl, -⟩ := fillPattern_nil_iff.mp h'
      rfl
  | cons segment pattern ih =>
      cases segment with
      | literal text =>
          obtain ⟨rest, hrest, rfl⟩ := fillPattern_literal_iff.mp h
          obtain ⟨rest', hrest', heq⟩ := fillPattern_literal_iff.mp h'
          obtain ⟨-, rfl⟩ := List.cons.inj heq
          exact ih hrest hrest'
      | param name =>
          obtain ⟨value, more, rest, rfl, hrest, rfl⟩ := fillPattern_param_iff.mp h
          obtain ⟨value', more', rest', rfl, hrest', heq⟩ := fillPattern_param_iff.mp h'
          obtain ⟨rfl, rfl⟩ := List.cons.inj heq
          rw [ih hrest hrest']

/-- The pieces of a filled pattern are its literals and the values. -/
theorem mem_of_fillPattern (h : fillPattern pattern values = some pieces) {piece : Text} :
    piece ∈ pieces ↔ .literal piece ∈ pattern ∨ piece ∈ values := by
  induction pattern generalizing values pieces with
  | nil =>
      obtain ⟨rfl, rfl⟩ := fillPattern_nil_iff.mp h
      simp
  | cons segment pattern ih =>
      cases segment with
      | literal text =>
          obtain ⟨rest, hrest, rfl⟩ := fillPattern_literal_iff.mp h
          rw [List.mem_cons, ih hrest, List.mem_cons, Segment.literal.injEq, or_assoc]
      | param name =>
          obtain ⟨value, more, rest, rfl, hrest, rfl⟩ := fillPattern_param_iff.mp h
          rw [List.mem_cons, ih hrest, List.mem_cons, List.mem_cons]
          simp [or_left_comm]

/-- A pattern fits what it can be filled to. -/
theorem fits_iff_fillPattern :
    Fits pattern pieces ↔ ∃ values, fillPattern pattern values = some pieces ∧
      ∀ value ∈ values, value ≠ [] := by
  constructor
  · intro h
    induction h with
    | done => exact ⟨[], rfl, by simp⟩
    | literal _ ih =>
        obtain ⟨values, hfill, hne⟩ := ih
        exact ⟨values, fillPattern_literal_iff.mpr ⟨_, hfill, rfl⟩, hne⟩
    | param hvalue _ ih =>
        obtain ⟨values, hfill, hne⟩ := ih
        exact ⟨_ :: values, fillPattern_param_iff.mpr ⟨_, _, _, rfl, hfill, rfl⟩,
          List.forall_mem_cons.mpr ⟨hvalue, hne⟩⟩
  · rintro ⟨values, hfill, hne⟩
    induction pattern generalizing values pieces with
    | nil =>
        obtain ⟨-, rfl⟩ := fillPattern_nil_iff.mp hfill
        exact .done
    | cons segment pattern ih =>
        cases segment with
        | literal text =>
            obtain ⟨rest, hrest, rfl⟩ := fillPattern_literal_iff.mp hfill
            exact (ih values hrest hne).literal
        | param name =>
            obtain ⟨value, more, rest, rfl, hrest, rfl⟩ := fillPattern_param_iff.mp hfill
            obtain ⟨hvalue, hmore⟩ := List.forall_mem_cons.mp hne
            exact (ih more hrest hmore).param hvalue

/-- A filled pattern binds its parameters to the values. -/
theorem bindings_of_fillPattern (h : fillPattern pattern values = some pieces) :
    bindings pattern pieces = (params pattern).zip values := by
  induction pattern generalizing values pieces with
  | nil =>
      obtain ⟨rfl, rfl⟩ := fillPattern_nil_iff.mp h
      rfl
  | cons segment pattern ih =>
      cases segment with
      | literal text =>
          obtain ⟨rest, hrest, rfl⟩ := fillPattern_literal_iff.mp h
          rw [bindings, params_literal, ih hrest]
      | param name =>
          obtain ⟨value, more, rest, rfl, hrest, rfl⟩ := fillPattern_param_iff.mp h
          rw [bindings, params_param, List.zip_cons_cons, ih hrest]

/-- **Segments are captured exactly where the pattern can be filled to them**, and
the values are what it is filled with. -/
theorem captureSegments_iff_fillPattern {captured : Captured} :
    captureSegments pattern pieces = some captured ↔
      ∃ values, fillPattern pattern values = some pieces ∧
        (∀ value ∈ values, value ≠ [] ∧ ¬ Misleads value) ∧
        captured = (params pattern).zip values := by
  rw [captureSegments_eq_some_iff, fits_iff_fillPattern]
  constructor
  · rintro ⟨⟨values, hfill, hne⟩, hcaptured, hsafe⟩
    rw [bindings_of_fillPattern hfill] at hcaptured hsafe
    refine ⟨values, hfill, fun value hvalue => ⟨hne value hvalue, ?_⟩, hcaptured⟩
    -- Every value has a name before it, as there are as many of them.
    have hsnd := List.map_snd_zip (Nat.le_of_eq (length_of_fillPattern hfill))
    rw [← hsnd] at hvalue
    obtain ⟨b, hb, rfl⟩ := List.mem_map.mp hvalue
    exact hsafe b hb
  · rintro ⟨values, hfill, hvalues, hcaptured⟩
    rw [bindings_of_fillPattern hfill]
    refine ⟨⟨values, hfill, fun value hvalue => (hvalues value hvalue).1⟩, hcaptured, ?_⟩
    intro b hb
    exact (hvalues b.2 (List.of_mem_zip hb).2).2

end Segments

/-! ## Pieces of patterns -/

/-- A piece that names a parameter is the name in braces, and nothing else. -/
theorem paramName?_eq_some_iff {piece name : Text} :
    paramName? piece = some name ↔ piece = '\x7b' :: name ++ ['\x7d'] := by
  constructor
  · intro h
    unfold paramName? at h
    split at h
    · rename_i rest
      split at h
      · rename_i reversed hreverse
        cases h
        rw [← List.reverse_reverse rest, hreverse]
        simp
      · cases h
    · cases h
  · rintro rfl
    simp [paramName?]

theorem read_eq_param_iff {piece name : Text} :
    Segment.read piece = .param name ↔ piece = '\x7b' :: name ++ ['\x7d'] := by
  rw [← paramName?_eq_some_iff]
  unfold Segment.read
  cases paramName? piece <;> simp

/-- Any other piece stands for itself. -/
theorem read_eq_literal_iff {piece text : Text} :
    Segment.read piece = .literal text ↔
      piece = text ∧ ∀ name, piece ≠ '\x7b' :: name ++ ['\x7d'] := by
  simp only [ne_eq, ← paramName?_eq_some_iff]
  unfold Segment.read
  cases paramName? piece <;> simp

theorem text_read (piece : Text) : (Segment.read piece).text = piece := by
  cases hread : Segment.read piece with
  | literal text => exact (read_eq_literal_iff.mp hread).1.symm
  | param name => exact (read_eq_param_iff.mp hread).symm

/-! ## Filling texts -/

/-- The inbound pattern without its leading slashes and with a value in place of
each parameter, if there are as many values as parameters. -/
def fill (r : Route) (values : List Text) : Option Text :=
  (fillPattern r.pattern values).map (Text.join '/')

variable {r : Route} {values : List Text} {text : Text}

theorem noSlash_of_literal (h : .literal text ∈ r.pattern) : '/' ∉ text := by
  obtain ⟨piece, hpiece, hread⟩ := List.mem_map.mp h
  intro hslash
  exact (Text.mem_of_mem_split ((read_eq_literal_iff.mp hread).1 ▸ hpiece) hslash).2 rfl

theorem pattern_ne_nil (r : Route) : r.pattern ≠ [] := by
  rw [pattern, ne_eq, List.map_eq_nil_iff]
  exact Text.split_ne_nil _ _

theorem fillPattern_ne_nil {pattern : List Segment} {pieces : List Text} (hne : pattern ≠ [])
    (h : fillPattern pattern values = some pieces) : pieces ≠ [] := by
  obtain ⟨segment, rest, rfl⟩ := List.exists_cons_of_ne_nil hne
  cases segment with
  | literal text =>
      obtain ⟨_, -, rfl⟩ := fillPattern_literal_iff.mp h
      exact List.cons_ne_nil _ _
  | param name =>
      obtain ⟨_, _, _, -, -, rfl⟩ := fillPattern_param_iff.mp h
      exact List.cons_ne_nil _ _

/-- Values without slashes fill a pattern to a text exactly if they fill its
segments to those of the text. -/
theorem fill_eq_some_iff (hvalues : ∀ value ∈ values, '/' ∉ value) :
    r.fill values = some text ↔ fillPattern r.pattern values = some (Text.split '/' text) := by
  rw [fill, Option.map_eq_some_iff]
  constructor
  · rintro ⟨pieces, hfill, rfl⟩
    have hslash : ∀ piece ∈ pieces, '/' ∉ piece := by
      intro piece hpiece
      rcases (mem_of_fillPattern hfill).mp hpiece with hliteral | hvalue
      · exact noSlash_of_literal hliteral
      · exact hvalues piece hvalue
    rw [Text.split_join (fillPattern_ne_nil r.pattern_ne_nil hfill) hslash, hfill]
  · intro hfill
    exact ⟨_, hfill, Text.join_split '/' text⟩

theorem length_of_fill (h : r.fill values = some text) :
    values.length = (params r.pattern).length := by
  obtain ⟨pieces, hfill, -⟩ := Option.map_eq_some_iff.mp h
  exact length_of_fillPattern hfill

/-- What a pattern is filled to does not begin with a slash. -/
theorem dropLeading_of_fill (h : r.fill values = some text)
    (hvalues : ∀ value ∈ values, IsValue value) : Text.dropLeading '/' text = text := by
  apply Text.dropWhile_eq_self_of_head
  intro c hc
  rw [beq_eq_false_iff_ne]
  rintro rfl
  obtain ⟨rest, rfl⟩ : ∃ rest, text = '/' :: rest := by
    cases text with
    | nil => cases hc
    | cons d rest => exact ⟨rest, by rw [Option.some.inj hc]⟩
  have hfill := (fill_eq_some_iff fun value hvalue => (hvalues value hvalue).noSlash).mp h
  rw [Text.split, if_pos rfl] at hfill
  -- The first piece would be empty, so it would be an empty literal before something else.
  obtain ⟨piece, pieces, hpieces⟩ := List.exists_cons_of_ne_nil (Text.split_ne_nil '/'
    (Text.dropLeading '/' r.inbound))
  have hpattern : r.pattern = Segment.read piece :: pieces.map Segment.read := by
    rw [pattern, segmentsOf, hpieces, List.map_cons]
  rw [hpattern] at hfill
  cases hread : Segment.read piece with
  | literal literal =>
      rw [hread] at hfill
      obtain ⟨tail, htail, heq⟩ := fillPattern_literal_iff.mp hfill
      obtain ⟨rfl, rfl⟩ := List.cons.inj heq
      obtain rfl := (read_eq_literal_iff.mp hread).1
      have hmore : pieces ≠ [] := by
        rintro rfl
        exact Text.split_ne_nil '/' rest (fillPattern_nil_iff.mp htail).2
      have hinbound : Text.dropLeading '/' r.inbound = '/' :: Text.join '/' pieces := by
        rw [← Text.join_split '/' (Text.dropLeading '/' r.inbound), hpieces,
          Text.join_cons '/' [] hmore, List.nil_append]
      have hhead := List.head?_dropWhile_not (· == '/') r.inbound
      rw [Text.dropLeading] at hinbound
      rw [hinbound] at hhead
      cases hhead
  | param name =>
      rw [hread] at hfill
      obtain ⟨value, more, tail, rfl, -, heq⟩ := fillPattern_param_iff.mp hfill
      obtain ⟨rfl, -⟩ := List.cons.inj heq
      exact (hvalues [] List.mem_cons_self).nonempty rfl

/-- A path is captured exactly if values fill the pattern to it. -/
theorem capture_eq_some_iff {path : Text} {captured : Captured} :
    r.capture path = some captured ↔
      ∃ values, r.fill values = some (Text.dropLeading '/' path) ∧
        (∀ value ∈ values, IsValue value) ∧ captured = (params r.pattern).zip values := by
  rw [capture, captureSegments_iff_fillPattern]
  constructor
  · rintro ⟨values, hfill, hvalues, hcaptured⟩
    have hslash : ∀ value ∈ values, '/' ∉ value := by
      intro value hvalue hslash
      have hpiece := (mem_of_fillPattern hfill).mpr (Or.inr hvalue)
      exact (Text.mem_of_mem_split hpiece hslash).2 rfl
    refine ⟨values, (fill_eq_some_iff hslash).mpr hfill, fun value hvalue => ?_, hcaptured⟩
    obtain ⟨hne, hsafe⟩ := hvalues value hvalue
    exact isValue_iff.mpr ⟨hne, hslash value hvalue, hsafe⟩
  · rintro ⟨values, hfill, hvalues, hcaptured⟩
    have hslash := fun value hvalue => (hvalues value hvalue).noSlash
    refine ⟨values, (fill_eq_some_iff hslash).mp hfill, fun value hvalue => ?_, hcaptured⟩
    obtain ⟨hne, -, hsafe⟩ := isValue_iff.mp (hvalues value hvalue)
    exact ⟨hne, hsafe⟩

/-! ## Patterns as texts -/

/-- A pattern that is filled with the names of its parameters in braces is the
pattern as it is written. -/
theorem fill_params (r : Route) :
    r.fill ((params r.pattern).map fun name => (Segment.param name).text) =
      some (Text.dropLeading '/' r.inbound) := by
  have hfill (pattern : List Segment) :
      fillPattern pattern ((params pattern).map fun name => (Segment.param name).text) =
        some (pattern.map Segment.text) := by
    induction pattern with
    | nil => rfl
    | cons segment pattern ih =>
        cases segment with
        | literal text => exact fillPattern_literal_iff.mpr ⟨_, ih, rfl⟩
        | param name => exact fillPattern_param_iff.mpr ⟨_, _, _, rfl, ih, rfl⟩
  have hpieces : r.pattern.map Segment.text = segmentsOf r.inbound := by
    rw [pattern, List.map_map]
    exact (List.map_congr_left fun piece _ => text_read piece).trans (List.map_id _)
  rw [fill, hfill, hpieces, Option.map_some, segmentsOf, Text.join_split]

/-- **Capturing undoes filling.** For every route, whatever its pattern, a path is
captured exactly if the pattern gives that path, without its leading slashes,
when a value is put in place of each parameter, as it is; what is captured is then
the names of the parameters, in order, each with its value. The values are all
that the guard lets through: one segment that is no dot segment. No others give
the same path, and filling in what was captured, or capturing what was filled in,
changes nothing. The pattern itself is what the names in braces give: a piece of
it is a parameter exactly if it is a name in braces, which may be empty, and
stands for itself otherwise. -/
theorem capture_undoes_filling (r : Route) :
    (∀ piece name text,
      (paramName? piece = some name ↔ piece = '\x7b' :: name ++ ['\x7d']) ∧
      (Segment.read piece = .param name ↔ piece = '\x7b' :: name ++ ['\x7d']) ∧
      (Segment.read piece = .literal text ↔
        piece = text ∧ ∀ name, piece ≠ '\x7b' :: name ++ ['\x7d'])) ∧
    (∀ path captured, r.capture path = some captured ↔
      ∃ values, values.length = (params r.pattern).length ∧ (∀ value ∈ values, IsValue value) ∧
        r.fill values = some (Text.dropLeading '/' path) ∧
        captured = (params r.pattern).zip values) ∧
    (∀ values values' text, (∀ value ∈ values, IsValue value) →
      (∀ value ∈ values', IsValue value) → r.fill values = some text →
        r.fill values' = some text → values = values') ∧
    (∀ values text, (∀ value ∈ values, IsValue value) → r.fill values = some text →
      r.capture text = some ((params r.pattern).zip values)) ∧
    r.fill ((params r.pattern).map fun name => (Segment.param name).text) =
      some (Text.dropLeading '/' r.inbound) := by
  refine ⟨?_, ?_, ?_, ?_, r.fill_params⟩
  · intro piece name text
    exact ⟨paramName?_eq_some_iff, read_eq_param_iff, read_eq_literal_iff⟩
  · intro path captured
    rw [capture_eq_some_iff]
    constructor
    · rintro ⟨values, hfill, hvalues, hcaptured⟩
      exact ⟨values, length_of_fill hfill, hvalues, hfill, hcaptured⟩
    · rintro ⟨values, -, hvalues, hfill, hcaptured⟩
      exact ⟨values, hfill, hvalues, hcaptured⟩
  · intro values values' text hvalues hvalues' hfill hfill'
    rw [fill_eq_some_iff fun value hvalue => (hvalues value hvalue).noSlash] at hfill
    rw [fill_eq_some_iff fun value hvalue => (hvalues' value hvalue).noSlash] at hfill'
    exact fillPattern_injective hfill hfill'
  · intro values text hvalues hfill
    apply capture_eq_some_iff.mpr
    rw [dropLeading_of_fill hfill hvalues]
    exact ⟨values, hfill, hvalues, rfl⟩

/-- A pattern with two parameters of one name and one without a name, and with
pieces that only look like parameters. -/
def oddRoute : Route :=
  .same "odd" .get "a/\x7bx\x7d/\x7bx\x7db/\x7b/\x7bx\x7d/\x7b\x7d"

/-- Values that look like parameters, escapes or dots are captured as they are,
and only they give this path. -/
theorem odd_values_are_captured :
    let path := "//a/\x7bx\x7d/\x7bx\x7db/\x7b/%252e/\x7b\x7d".toList
    oddRoute.capture path = some [("x".toList, "\x7bx\x7d".toList), ("x".toList, "%252e".toList),
      ([], "\x7b\x7d".toList)] ∧
      ∀ values, (∀ value ∈ values, IsValue value) →
        oddRoute.fill values = some (Text.dropLeading '/' path) →
        values = ["\x7bx\x7d".toList, "%252e".toList, "\x7b\x7d".toList] := by
  intro path
  have hvalues : ∀ value ∈ ["\x7bx\x7d".toList, "%252e".toList, "\x7b\x7d".toList],
      IsValue value := by decide +kernel
  have hfill : oddRoute.fill ["\x7bx\x7d".toList, "%252e".toList, "\x7b\x7d".toList] =
      some (Text.dropLeading '/' path) := by decide +kernel
  obtain ⟨-, hcapture, hunique, -⟩ := capture_undoes_filling oddRoute
  refine ⟨(hcapture path _).mpr ⟨_, by decide +kernel, hvalues, hfill, by decide +kernel⟩, ?_⟩
  intro values hvalues' hfill'
  exact hunique values _ _ hvalues' hvalues hfill' hfill

end Route

end JobsGateway
