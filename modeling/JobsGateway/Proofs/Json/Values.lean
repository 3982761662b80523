import JobsGateway.Proofs.Json.Strings

/-!
# Values are passed over to their ends

The reader passes over any value of the grammar, however deep its brackets are
nested, and stops where it ends. So a text can be read in one way only: where a
value ends, and which members an object has, is settled by the octets.
-/

namespace JobsGateway.Json

/-! ## Blanks -/

theorem isBlank_nil : IsBlank [] := fun _ hb => nomatch hb

theorem skipSpace_append {w : Bytes} (h : IsBlank w) (s : Bytes) :
    skipSpace (w ++ s) = skipSpace s :=
  List.dropWhile_append_of_pos h

theorem skipSpace_cons {b : UInt8} (h : isSpace b = false) (s : Bytes) :
    skipSpace (b :: s) = b :: s := by
  rw [skipSpace, List.dropWhile_cons_of_neg]
  rw [h]
  exact Bool.false_ne_true

theorem skipSpace_append_cons {w : Bytes} (h : IsBlank w) {b : UInt8} (hb : isSpace b = false)
    (s : Bytes) : skipSpace (w ++ b :: s) = b :: s := by
  rw [skipSpace_append h, skipSpace_cons hb]

theorem skipSpace_blank {w : Bytes} (h : IsBlank w) : skipSpace w = [] :=
  List.append_nil w ▸ skipSpace_append h []

/-- What may stand behind a value: a blank, a comma, a closing bracket, or
nothing. -/
def Closes (rest : Bytes) : Prop :=
  ∀ b ∈ rest.head?, isSpace b = true ∨ b = 0x2C ∨ b = 0x5D ∨ b = 0x7D

theorem closes_nil : Closes [] := fun _ hb => nomatch hb

theorem closes_cons {b : UInt8} (h : b = 0x2C ∨ b = 0x5D ∨ b = 0x7D) (rest : Bytes) :
    Closes (b :: rest) := by
  intro d hd
  cases hd
  exact Or.inr h

theorem Closes.append {w rest : Bytes} (hw : IsBlank w) (h : Closes rest) :
    Closes (w ++ rest) := by
  cases w with
  | nil => exact h
  | cons b w =>
      intro d hd
      cases hd
      exact Or.inl (hw b List.mem_cons_self)

/-! ## Numbers -/

theorem not_digit_of_closes {rest : Bytes} (h : Closes rest) {b : UInt8} (hb : b ∈ rest.head?) :
    isDigit b = false ∧ b ≠ 0x2E ∧ isExponentMark b = false := by
  have hall : ∀ b : UInt8, isSpace b = true ∨ b = 0x2C ∨ b = 0x5D ∨ b = 0x7D →
      isDigit b = false ∧ b ≠ 0x2E ∧ isExponentMark b = false := by
    intro b
    simp only [isSpace, Bool.or_eq_true, beq_iff_eq]
    rintro ((((rfl | rfl) | rfl) | rfl) | rfl | rfl | rfl) <;> decide
  exact hall b (h b hb)

/-- Digits are passed over up to an octet that is none. -/
theorem skipDigits_append {ds rest : Bytes} (hds : ∀ d ∈ ds, isDigit d = true)
    (hrest : ∀ b ∈ rest.head?, isDigit b = false) : skipDigits (ds ++ rest) = rest := by
  rw [skipDigits, List.dropWhile_append_of_pos hds]
  cases rest with
  | nil => rfl
  | cons b rest =>
      rw [List.dropWhile_cons_of_neg]
      rw [hrest b rfl]
      exact Bool.false_ne_true

theorem skipSign_append {sign : Bytes} (h : sign = [] ∨ sign = [0x2B] ∨ sign = [0x2D])
    {d : UInt8} (hd : isDigit d = true) (rest : Bytes) :
    skipSign (sign ++ d :: rest) = d :: rest := by
  have hsign : d ≠ 0x2B ∧ d ≠ 0x2D := by
    constructor
    · rintro rfl
      cases hd
    · rintro rfl
      cases hd
  rcases h with rfl | rfl | rfl
  · simp [skipSign, hsign]
  · rfl
  · rfl

theorem skipExponentPart_append {x rest : Bytes} (h : IsExponent x) (hrest : Closes rest) :
    skipExponentPart (x ++ rest) = .ok rest := by
  cases h with
  | none =>
      cases rest with
      | nil => rfl
      | cons b rest =>
          rw [List.nil_append, skipExponentPart, (not_digit_of_closes hrest rfl).2.2]
          rfl
  | @some b sign ds hmark hsign hds =>
      obtain ⟨d, more, rfl⟩ := List.exists_cons_of_ne_nil hds.1
      obtain ⟨hd, hmore⟩ := List.forall_mem_cons.mp hds.2
      rw [List.cons_append, skipExponentPart, if_pos hmark, skipExponent, List.append_assoc,
        List.cons_append, skipSign_append hsign hd]
      simp only [hd, if_true]
      rw [skipDigits_append hmore fun b hb => (not_digit_of_closes hrest hb).1]

theorem IsExponent.head {x : Bytes} (h : IsExponent x) {rest : Bytes} (hrest : Closes rest)
    {b : UInt8} (hb : b ∈ (x ++ rest).head?) : isDigit b = false ∧ b ≠ 0x2E := by
  cases h with
  | none => exact ⟨(not_digit_of_closes hrest hb).1, (not_digit_of_closes hrest hb).2.1⟩
  | some hmark _ _ =>
      cases hb
      simp only [isExponentMark, Bool.or_eq_true, beq_iff_eq] at hmark
      rcases hmark with rfl | rfl <;> decide

theorem IsFraction.head {f : Bytes} (h : IsFraction f) {x rest : Bytes} (hx : IsExponent x)
    (hrest : Closes rest) {b : UInt8} (hb : b ∈ (f ++ (x ++ rest)).head?) :
    isDigit b = false := by
  cases h with
  | none => exact (hx.head hrest hb).1
  | some _ =>
      cases hb
      rfl

theorem skipFraction_append {f x rest : Bytes} (hf : IsFraction f) (hx : IsExponent x)
    (hrest : Closes rest) : skipFraction (f ++ (x ++ rest)) = .ok rest := by
  have hexponent := skipExponentPart_append hx hrest
  cases hf with
  | none =>
      rw [List.nil_append]
      cases hs : x ++ rest with
      | nil =>
          rw [hs] at hexponent
          exact hexponent
      | cons b more =>
          rw [skipFraction, if_neg (hx.head hrest (hs ▸ rfl)).2, ← hs, hexponent]
  | @some ds hds =>
      have hskip : skipDigits (ds ++ (x ++ rest)) = x ++ rest :=
        skipDigits_append hds.2 fun b hb => (hx.head hrest hb).1
      have hlength : ¬ (x ++ rest).length = (ds ++ (x ++ rest)).length := by
        have hpos := List.length_pos_iff.mpr hds.1
        have hsum : (ds ++ (x ++ rest)).length = ds.length + (x ++ rest).length :=
          List.length_append
        omega
      rw [List.cons_append, skipFraction, if_pos rfl, hskip, if_neg hlength, hexponent]

theorem skipNumber_append {w f x rest : Bytes} (hw : IsWhole w) (hf : IsFraction f)
    (hx : IsExponent x) (hrest : Closes rest) :
    skipNumber (w ++ (f ++ (x ++ rest))) = .ok rest := by
  have hfraction := skipFraction_append hf hx hrest
  cases hw with
  | zero =>
      have hhead : (f ++ (x ++ rest)).head?.any isDigit = false := by
        rw [Option.any_eq_false]
        intro b hb
        rw [hf.head hx hrest hb]
      rw [List.singleton_append, skipNumber, if_pos rfl, hhead]
      exact hfraction
  | @digits b ds hb hne hds =>
      rw [List.cons_append, skipNumber, if_neg hne, if_pos hb,
        skipDigits_append hds fun b hb => hf.head hx hrest hb, hfraction]

/-- A number is passed over up to its end. -/
theorem IsNumberText.skipScalar {v : Bytes} (h : IsNumberText v) {rest : Bytes}
    (hrest : Closes rest) : ∃ b more, v = b :: more ∧ (b = 0x2D ∨ isDigit b = true) ∧
      Json.skipScalar b (more ++ rest) = .ok rest := by
  obtain ⟨hsign, hw, hf, hx⟩ := h
  rename_i sign w f x
  have hnumber := skipNumber_append hw hf hx hrest
  rcases hsign with rfl | rfl
  · obtain ⟨b, more, rfl, hb⟩ : ∃ b more, w = b :: more ∧ isDigit b = true := by
      cases hw with
      | zero => exact ⟨_, _, rfl, rfl⟩
      | digits hb _ _ => exact ⟨_, _, rfl, hb⟩
    refine ⟨b, more ++ (f ++ x), rfl, Or.inr hb, ?_⟩
    have hword : b ≠ 0x6E ∧ b ≠ 0x74 ∧ b ≠ 0x66 ∧ b ≠ 0x2D := by
      refine ⟨?_, ?_, ?_, ?_⟩ <;> rintro rfl <;> cases hb
    rw [Json.skipScalar, if_neg hword.1, if_neg hword.2.1, if_neg hword.2.2.1, if_neg hword.2.2.2,
      if_pos hb]
    simpa using hnumber
  · refine ⟨0x2D, w ++ (f ++ x), rfl, Or.inl rfl, ?_⟩
    rw [Json.skipScalar, if_neg (by decide), if_neg (by decide), if_neg (by decide), if_pos rfl]
    simpa using hnumber

/-! ## Single steps -/

/-- A value begins after blanks. -/
theorem skip_value (brackets : List Bracket) (s : Bytes) :
    skip .value brackets s =
      match skipSpace s with
      | [] => .error (.next .endInValue [])
      | b :: rest =>
        if b = 0x5B then skip .firstItem (.list :: brackets) rest
        else if b = 0x7B then skip .firstItem (.object :: brackets) rest
        else (skipScalar b rest).bind (skip .following brackets) := by
  rw [skip]
  cases hs : skipSpace s with
  | nil => rfl
  | cons b rest =>
      dsimp only
      cases hscalar : skipScalar b rest <;> rfl

theorem skip_following (bracket : Bracket) (outer : List Bracket) (s : Bytes) :
    skip .following (bracket :: outer) s =
      match skipSpace s with
      | [] => .error (.next bracket.endProblem [])
      | b :: rest =>
        if b = 0x2C then skip .item (bracket :: outer) rest
        else if b = bracket.closing then skip .following outer rest
        else .error (.next bracket.itemProblem (b :: rest)) := by
  rw [skip]
  cases hs : skipSpace s <;> rfl

theorem skip_firstItem (bracket : Bracket) (outer : List Bracket) (s : Bytes) :
    skip .firstItem (bracket :: outer) s =
      match skipSpace s with
      | [] => .error (.next bracket.endProblem [])
      | b :: rest =>
        if b = bracket.closing then skip .following outer rest
        else skip .item (bracket :: outer) s := by
  rw [skip]
  cases hs : skipSpace s <;> rfl

theorem skip_item_object (outer : List Bracket) (s : Bytes) :
    skip .item (.object :: outer) s = (skipKey s).bind (skip .value (.object :: outer)) := by
  conv =>
    lhs
    rw [skip]
  cases hs : skipKey s <;> rfl

theorem skip_item_list (outer : List Bracket) (s : Bytes) :
    skip .item (.list :: outer) s = skip .value (.list :: outer) s := by
  conv =>
    lhs
    rw [skip]

/-- Blanks before a value, and in a bracket those behind one, do not count. -/
theorem skip_value_append {w : Bytes} (h : IsBlank w) (brackets : List Bracket) (s : Bytes) :
    skip .value brackets (w ++ s) = skip .value brackets s := by
  rw [skip_value, skip_value, skipSpace_append h]

theorem skip_following_append {w : Bytes} (h : IsBlank w) (bracket : Bracket)
    (outer : List Bracket) (s : Bytes) :
    skip .following (bracket :: outer) (w ++ s) = skip .following (bracket :: outer) s := by
  rw [skip_following, skip_following, skipSpace_append h]

theorem closes_closing (bracket : Bracket) (rest : Bytes) : Closes (bracket.closing :: rest) :=
  closes_cons (by cases bracket <;> decide) rest

theorem isSpace_closing (bracket : Bracket) : isSpace bracket.closing = false := by
  cases bracket <;> rfl

theorem skip_following_closing (bracket : Bracket) (outer : List Bracket) (rest : Bytes) :
    skip .following (bracket :: outer) (bracket.closing :: rest) =
      skip .following outer rest := by
  rw [skip_following, skipSpace_cons (isSpace_closing bracket)]
  dsimp only
  rw [if_neg (by cases bracket <;> decide), if_pos rfl]

theorem skip_following_comma (bracket : Bracket) (outer : List Bracket) (rest : Bytes) :
    skip .following (bracket :: outer) (0x2C :: rest) = skip .item (bracket :: outer) rest := by
  rw [skip_following, skipSpace_cons (by rfl)]
  exact if_pos rfl

/-! ## Items in brackets -/

/-- What is asked of the items in a bracket: each of them is passed over, and none
begins with the end of the bracket. -/
structure Passes {α : Type} (P : Bytes → α → Prop) (all : List α) (bracket : Bracket)
    (outer : List Bracket) : Prop where
  start : ∀ {s a}, P s a → a ∈ all → ∀ rest,
    ∃ b more, skipSpace (s ++ rest) = b :: more ∧ b ≠ bracket.closing
  past : ∀ {s a}, P s a → a ∈ all → ∀ {rest}, Closes rest →
    skip .item (bracket :: outer) (s ++ rest) = skip .following (bracket :: outer) rest

namespace Passes

variable {α : Type} {P : Bytes → α → Prop} {all items : List α} {bracket : Bracket}
  {outer : List Bracket} {s : Bytes}

/-- Items are passed over one by one. -/
theorem over_items (h : Passes P all bracket outer) (hitems : Items P s items) (hsub : items ⊆ all)
    (rest : Bytes) :
    skip .item (bracket :: outer) (s ++ bracket.closing :: rest) = skip .following outer rest := by
  induction hitems with
  | last hone =>
      rw [h.past hone (hsub List.mem_cons_self) (closes_closing bracket rest),
        skip_following_closing]
  | next hone _ ih =>
      obtain ⟨hmem, hrest⟩ := List.cons_subset.mp hsub
      rw [List.append_assoc, List.cons_append, h.past hone hmem (closes_cons (Or.inl rfl) _),
        skip_following_comma, ih hrest]

/-- A row of items is passed over up to the closing bracket. -/
theorem over_row (h : Passes P all bracket outer) (hrow : Row P s items) (hsub : items ⊆ all)
    (rest : Bytes) :
    skip .firstItem (bracket :: outer) (s ++ bracket.closing :: rest) =
      skip .following outer rest := by
  cases hrow with
  | blank hw =>
      rw [skip_firstItem, skipSpace_append_cons hw (isSpace_closing bracket)]
      exact if_pos rfl
  | items hitems =>
      obtain ⟨b, more, hspace, hb⟩ : ∃ b more,
          skipSpace (s ++ bracket.closing :: rest) = b :: more ∧ b ≠ bracket.closing := by
        cases hitems with
        | last hone => exact h.start hone (hsub List.mem_cons_self) _
        | next hone _ =>
            rw [List.append_assoc]
            exact h.start hone (hsub List.mem_cons_self) _
      rw [skip_firstItem, hspace]
      exact (if_neg hb).trans (h.over_items hitems hsub rest)

end Passes

/-! ## Values -/

theorem readWord_append (word rest : Bytes) : readWord word (word ++ rest) = .ok rest := by
  induction word with
  | nil => rfl
  | cons b word ih => rw [List.cons_append, readWord, if_pos rfl, ih]

/-- The first octet of a number opens nothing else. -/
theorem number_head_ne {b d : UInt8} (h : b = 0x2D ∨ isDigit b = true)
    (hd : d ≠ 0x2D ∧ isDigit d = false) : b ≠ d := by
  rintro rfl
  rcases h with rfl | h
  · exact hd.1 rfl
  · rw [hd.2] at h
    cases h

theorem isSpace_number_head {b : UInt8} (h : b = 0x2D ∨ isDigit b = true) :
    isSpace b = false := by
  simp only [isSpace, Bool.or_eq_false_iff, beq_eq_false_iff_ne]
  exact ⟨⟨⟨number_head_ne h (by decide), number_head_ne h (by decide)⟩,
    number_head_ne h (by decide)⟩, number_head_ne h (by decide)⟩

/-- A value begins with an octet that is neither a blank nor the end of a list. -/
theorem IsValueText.head {v : Bytes} (h : IsValueText v) :
    ∃ b more, v = b :: more ∧ isSpace b = false ∧ b ≠ 0x5D := by
  cases h with
  | word hword =>
      simp only [words, List.mem_cons, List.not_mem_nil, or_false] at hword
      rcases hword with rfl | rfl | rfl <;> exact ⟨_, _, rfl, by decide, by decide⟩
  | number hnumber =>
      obtain ⟨b, more, rfl, hb, -⟩ := hnumber.skipScalar closes_nil
      exact ⟨b, more, rfl, isSpace_number_head hb, number_head_ne hb (by decide)⟩
  | string _ => exact ⟨_, _, rfl, by decide, by decide⟩
  | list _ _ => exact ⟨_, _, rfl, by decide, by decide⟩
  | object _ _ => exact ⟨_, _, rfl, by decide, by decide⟩

/-- A value is passed over wherever it may end. -/
def IsPassedOver (v : Bytes) : Prop :=
  ∀ brackets {rest}, Closes rest →
    skip .value brackets (v ++ rest) = skip .following brackets rest

theorem isPassedOver_of_scalar {b : UInt8} {more : Bytes} (hspace : isSpace b = false)
    (hlist : b ≠ 0x5B) (hobject : b ≠ 0x7B)
    (h : ∀ {rest}, Closes rest → skipScalar b (more ++ rest) = .ok rest) :
    IsPassedOver (b :: more) := by
  intro brackets rest hrest
  rw [List.cons_append, skip_value, skipSpace_cons hspace]
  dsimp only
  rw [if_neg hlist, if_neg hobject, h hrest]
  rfl

theorem Padded.skip_value {s v : Bytes} (h : Padded s v) (hv : IsPassedOver v)
    (bracket : Bracket) (outer : List Bracket) {rest : Bytes} (hrest : Closes rest) :
    skip .value (bracket :: outer) (s ++ rest) = skip .following (bracket :: outer) rest := by
  obtain ⟨hw, hw'⟩ := h
  rw [List.append_assoc, List.append_assoc, skip_value_append hw, hv _ (hrest.append hw'),
    skip_following_append hw']

theorem Padded.head {s v : Bytes} (h : Padded s v) (hv : IsValueText v) (rest : Bytes) :
    ∃ b more, skipSpace (s ++ rest) = b :: more ∧ b ≠ 0x5D := by
  obtain ⟨hw, hw'⟩ := h
  obtain ⟨b, more, rfl, hspace, hb⟩ := hv.head
  rw [List.append_assoc, List.cons_append, List.cons_append]
  exact ⟨b, _, skipSpace_append_cons hw hspace _, hb⟩

/-- The key of a member is passed over, and the colon behind it. -/
theorem Member.IsWritten.skipKey {s : Bytes} {m : Member} (h : m.IsWritten s) :
    ∃ p, Padded p m.value ∧ ∀ rest, Json.skipKey (s ++ rest) = .ok (p ++ rest) := by
  obtain ⟨hw, hinside, hw', hp⟩ := h
  refine ⟨_, hp, fun rest => ?_⟩
  simp only [List.append_assoc, List.cons_append]
  rw [Json.skipKey, skipSpace_append_cons hw (by rfl)]
  simp only [if_true, skipText_inside hinside,
    skipSpace_append_cons hw' (by rfl : isSpace 0x3A = false)]

theorem Member.IsWritten.head {s : Bytes} {m : Member} (h : m.IsWritten s) (rest : Bytes) :
    ∃ more, skipSpace (s ++ rest) = 0x22 :: more := by
  obtain ⟨hw, -, -, -⟩ := h
  rw [List.append_assoc, List.cons_append]
  exact ⟨_, skipSpace_append_cons hw (by rfl) _⟩

theorem passes_values {values : List Bytes} (h : ∀ v ∈ values, IsValueText v)
    (hover : ∀ v ∈ values, IsPassedOver v) (outer : List Bracket) :
    Passes Padded values .list outer where
  start hs hv rest := hs.head (h _ hv) rest
  past hs hv rest hrest := by
    rw [skip_item_list, hs.skip_value (hover _ hv) _ _ hrest]

theorem passes_members {members : List Member} (hover : ∀ m ∈ members, IsPassedOver m.value)
    (outer : List Bracket) : Passes Member.IsWritten members .object outer where
  start hs _ rest := by
    obtain ⟨more, hspace⟩ := hs.head rest
    exact ⟨_, more, hspace, by decide⟩
  past {s m} hs hm rest hrest := by
    obtain ⟨p, hp, hkey⟩ := hs.skipKey
    rw [skip_item_object, hkey]
    exact hp.skip_value (hover m hm) _ _ hrest

/-- **Every value is passed over to its end,** whatever it holds. -/
theorem IsValueText.isPassedOver {v : Bytes} (h : IsValueText v) : IsPassedOver v := by
  induction h with
  | word hword =>
      simp only [words, List.mem_cons, List.not_mem_nil, or_false] at hword
      rcases hword with rfl | rfl | rfl
      · exact isPassedOver_of_scalar (by decide) (by decide) (by decide)
          fun {rest} _ => readWord_append (octets "ull") rest
      · exact isPassedOver_of_scalar (by decide) (by decide) (by decide)
          fun {rest} _ => readWord_append (octets "rue") rest
      · exact isPassedOver_of_scalar (by decide) (by decide) (by decide)
          fun {rest} _ => readWord_append (octets "alse") rest
  | number hnumber =>
      obtain ⟨b, more, rfl, hb, -⟩ := hnumber.skipScalar closes_nil
      refine isPassedOver_of_scalar (isSpace_number_head hb) (number_head_ne hb (by decide))
        (number_head_ne hb (by decide)) fun {rest} hrest => ?_
      obtain ⟨b', more', heq, -, hskip⟩ := hnumber.skipScalar hrest
      obtain ⟨rfl, rfl⟩ := List.cons.inj heq
      exact hskip
  | @string s points hinside =>
      refine isPassedOver_of_scalar (by decide) (by decide) (by decide) fun {rest} _ => ?_
      rw [List.append_assoc]
      exact skipText_inside hinside rest
  | @list s values hrow hvalues ih =>
      intro brackets rest hrest
      rw [List.cons_append, skip_value, skipSpace_cons (by rfl), List.append_assoc]
      exact (passes_values hvalues ih brackets).over_row hrow (List.Subset.refl _) rest
  | @object s members hrow hmembers ih =>
      intro brackets rest hrest
      rw [List.cons_append, skip_value, skipSpace_cons (by rfl), List.append_assoc]
      exact (passes_members ih brackets).over_row hrow (List.Subset.refl _) rest

/-- **A value can be passed over by itself.** -/
theorem IsValueText.skipValue {v : Bytes} (h : IsValueText v) {rest : Bytes}
    (hrest : Closes rest) : Json.skipValue (v ++ rest) = .ok rest := by
  rw [Json.skipValue, h.isPassedOver [] hrest, skip]
  intro heq
  cases heq

/-! ## One way to read an object -/

/-- What stands behind an item of a row: nothing, or a comma. -/
def Stops (rest : Bytes) : Prop :=
  rest = [] ∨ ∃ more, rest = 0x2C :: more

theorem Stops.closes {rest : Bytes} (h : Stops rest) : Closes rest := by
  rcases h with rfl | ⟨more, rfl⟩
  · exact closes_nil
  · exact closes_cons (Or.inl rfl) more

theorem Stops.skipSpace_append {w rest : Bytes} (hw : IsBlank w) (h : Stops rest) :
    skipSpace (w ++ rest) = rest := by
  rcases h with rfl | ⟨more, rfl⟩
  · rw [List.append_nil, skipSpace_blank hw]
  · exact skipSpace_append_cons hw (by rfl) more

section Unique

variable {s s' v v' rest rest' : Bytes} {m m' : Member}

/-- The octets tell where a value ends. -/
theorem IsValueText.unique (h : IsValueText v) (h' : IsValueText v') (hrest : Closes rest)
    (hrest' : Closes rest') (heq : v ++ rest = v' ++ rest') : v = v' ∧ rest = rest' := by
  have hskip := h.skipValue hrest
  rw [heq, h'.skipValue hrest'] at hskip
  cases hskip
  exact ⟨List.append_cancel_right heq, rfl⟩

theorem Padded.unique (h : Padded s v) (h' : Padded s' v') (hv : IsValueText v)
    (hv' : IsValueText v') (hrest : Stops rest) (hrest' : Stops rest')
    (heq : s ++ rest = s' ++ rest') : v = v' ∧ rest = rest' := by
  obtain ⟨hw, hafter⟩ := h
  obtain ⟨hw', hafter'⟩ := h'
  obtain ⟨b, more, rfl, hb, -⟩ := hv.head
  obtain ⟨b', more', rfl, hb', -⟩ := hv'.head
  have hspace := congrArg skipSpace heq
  simp only [List.append_assoc] at hspace
  rw [List.cons_append, List.cons_append, skipSpace_append_cons hw hb,
    skipSpace_append_cons hw' hb', ← List.cons_append, ← List.cons_append] at hspace
  obtain ⟨hvalue, hafters⟩ := hv.unique hv' (hrest.closes.append hafter)
    (hrest'.closes.append hafter') hspace
  have hends := congrArg skipSpace hafters
  rw [hrest.skipSpace_append hafter, hrest'.skipSpace_append hafter'] at hends
  exact ⟨hvalue, hends⟩

/-- The octets tell which member comes first, and what follows it. -/
theorem Member.IsWritten.unique (h : m.IsWritten s) (h' : m'.IsWritten s')
    (hv : IsValueText m.value) (hv' : IsValueText m'.value) (hrest : Stops rest)
    (hrest' : Stops rest') (heq : s ++ rest = s' ++ rest') : m = m' ∧ rest = rest' := by
  obtain ⟨hw, hinside, hcolon, hp⟩ := h
  obtain ⟨hw', hinside', hcolon', hp'⟩ := h'
  have hspace := congrArg skipSpace heq
  simp only [List.append_assoc, List.cons_append] at hspace
  rw [skipSpace_append_cons hw (by rfl), skipSpace_append_cons hw' (by rfl)] at hspace
  obtain ⟨rfl, hbehind⟩ := hinside.eq_of_append hinside' (List.cons.inj hspace).2
  have hvalue := congrArg skipSpace hbehind
  rw [skipSpace_append_cons hcolon (by rfl), skipSpace_append_cons hcolon' (by rfl)] at hvalue
  obtain ⟨hsame, hends⟩ := hp.unique hp' hv hv' hrest hrest' (List.cons.inj hvalue).2
  refine ⟨?_, hends⟩
  cases m
  cases m'
  exact (Member.mk.injEq ..).mpr ⟨hinside.unique hinside', hsame⟩

theorem items_unique {members members' : List Member} (h : Items Member.IsWritten s members)
    (h' : Items Member.IsWritten s' members') (hv : ∀ m ∈ members, IsValueText m.value)
    (hv' : ∀ m ∈ members', IsValueText m.value) (heq : s = s') : members = members' := by
  induction h generalizing s' members' with
  | last hone =>
      cases h' with
      | last hone' =>
          obtain ⟨rfl, -⟩ := hone.unique hone' (hv _ List.mem_cons_self) (hv' _ List.mem_cons_self)
            (Or.inl rfl) (Or.inl rfl) (congrArg (· ++ []) heq)
          rfl
      | next hone' _ =>
          obtain ⟨-, hends⟩ := hone.unique hone' (hv _ List.mem_cons_self)
            (hv' _ List.mem_cons_self) (Or.inl rfl) (Or.inr ⟨_, rfl⟩)
            ((List.append_nil _).trans heq)
          cases hends
  | next hone _ ih =>
      cases h' with
      | last hone' =>
          obtain ⟨-, hends⟩ := hone.unique hone' (hv _ List.mem_cons_self)
            (hv' _ List.mem_cons_self) (Or.inr ⟨_, rfl⟩) (Or.inl rfl)
            (heq.trans (List.append_nil _).symm)
          cases hends
      | next hone' hrest' =>
          obtain ⟨rfl, hends⟩ := hone.unique hone' (hv _ List.mem_cons_self)
            (hv' _ List.mem_cons_self) (Or.inr ⟨_, rfl⟩) (Or.inr ⟨_, rfl⟩) heq
          rw [ih hrest' (fun m hm => hv m (List.mem_cons_of_mem _ hm))
            (fun m hm => hv' m (List.mem_cons_of_mem _ hm)) (List.cons.inj hends).2]

/-- Members do not begin with blanks alone. -/
theorem items_not_blank {members : List Member} (h : Items Member.IsWritten s members) :
    ¬ IsBlank s := by
  intro hblank
  have hnil := skipSpace_blank hblank
  cases h with
  | last hone =>
      obtain ⟨more, hspace⟩ := hone.head []
      rw [List.append_nil, hnil] at hspace
      cases hspace
  | next hone _ =>
      obtain ⟨more, hspace⟩ := hone.head _
      rw [hnil] at hspace
      cases hspace

/-- **A text is an object in one way only:** its members are determined. -/
theorem IsObjectText.unique {members members' : List Member} (h : IsObjectText s members)
    (h' : IsObjectText s members') : members = members' := by
  obtain ⟨hp, hrow, hv⟩ := h
  obtain ⟨hp', hrow', hv'⟩ := h'
  obtain ⟨hbody, -⟩ := hp.unique hp' (.object hrow hv) (.object hrow' hv') (Or.inl rfl)
    (Or.inl rfl) rfl
  obtain rfl := List.append_cancel_right (List.cons.inj hbody).2
  cases hrow with
  | blank hw =>
      cases hrow' with
      | blank _ => rfl
      | items hitems => exact absurd hw (items_not_blank hitems)
  | items hitems =>
      cases hrow' with
      | blank hw => exact absurd hw (items_not_blank hitems)
      | items hitems' => exact items_unique hitems hitems' hv hv' rfl

end Unique

end JobsGateway.Json
