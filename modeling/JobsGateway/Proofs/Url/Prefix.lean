import JobsGateway.Proofs.Url.Reread

/-!
# What the beginning of a URL decides

A text that begins with a scheme has that scheme, and one that begins with a web
scheme, a canonical authority and a slash has that authority, whatever comes
after: blanks, marks, tabs or another address.
-/

namespace JobsGateway.Url

/-! ## Schemes -/

theorem lower_of_isSchemeChar {c : Char} (h : isSchemeChar c = true) :
    isSchemeChar c.toLower = true ∧ c.toLower.toLower = c.toLower ∧
      (c.isAlpha = true → c.toLower.isAlpha = true) := by
  have hlt : c.toNat < 128 := by
    simp only [isSchemeChar, Bool.or_eq_true, beq_iff_eq, or_assoc] at h
    rcases h with h | rfl | rfl | rfl
    · exact Text.lt_of_isAlphanum h
    all_goals decide
  exact Text.forall_ascii
    (P := fun c => isSchemeChar c = true → isSchemeChar c.toLower = true ∧
      c.toLower.toLower = c.toLower ∧ (c.isAlpha = true → c.toLower.isAlpha = true))
    (by decide +kernel) hlt h

theorem isScheme_of_readScheme? {text scheme rest : Text}
    (h : readScheme? text = some (scheme, rest)) : IsScheme scheme := by
  unfold readScheme? at h
  split at h
  · rename_i c more
    split at h
    · rename_i halpha
      split at h
      · cases h
        have hstart : isSchemeChar c = true := by
          simp [isSchemeChar, Char.isAlphanum, halpha]
        have hchars : ∀ d ∈ (c :: more).takeWhile isSchemeChar, isSchemeChar d = true :=
          List.all_eq_true.mp List.all_takeWhile
        refine ⟨?_, ?_, ?_⟩
        · rw [List.takeWhile_cons_of_pos hstart]
          exact ⟨_, _, rfl, (lower_of_isSchemeChar hstart).2.2 halpha⟩
        · intro d hd
          obtain ⟨e, he, rfl⟩ := List.mem_map.mp hd
          exact (lower_of_isSchemeChar (hchars e he)).1
        · rw [List.map_map]
          exact List.map_congr_left fun d hd => (lower_of_isSchemeChar (hchars d hd)).2.1
      · cases h
    · cases h
  · cases h

/-- The scheme that a text was read with is the one of its URL. -/
theorem scheme_of_parse {text scheme rest : Text} {u : Url}
    (hscheme : readScheme? (clean text) = some (scheme, rest)) (h : parse text = .ok u) :
    u.scheme = scheme := by
  unfold parse at h
  rw [hscheme] at h
  simp only at h
  split at h
  · rename_i hkind
    rw [scheme_of_readFile h]
    unfold SchemeKind.of at hkind
    split at hkind
    · rename_i heq
      exact heq.symm
    · split at hkind <;> cases hkind
  · obtain ⟨a, more, rest, tail, path, -, rfl⟩ := readHierarchy_ok h
    rfl
  · exact scheme_of_readPlain h

theorem isScheme_of_parse {text : Text} {u : Url} (h : parse text = .ok u) :
    IsScheme u.scheme := by
  cases hscheme : readScheme? (clean text) with
  | none =>
      unfold parse at h
      rw [hscheme] at h
      cases h
  | some found =>
      obtain ⟨scheme, rest⟩ := found
      rw [scheme_of_parse hscheme h]
      exact isScheme_of_readScheme? hscheme

/-! ## Beginnings -/

/-- What does not count in a text is looked for after its beginning. -/
theorem clean_append {front : Text} (hfront : ∀ c ∈ front, 0x20 < c.toNat) {mark : Char}
    (hmark : 0x20 < mark.toNat) (rest : Text) :
    clean (front ++ mark :: rest) = front ++ clean (mark :: rest) := by
  have hstart (before : Text) (hbefore : ∀ c ∈ before, 0x20 < c.toNat) :
      (before ++ mark :: rest).dropWhile (·.toNat ≤ 0x20) = before ++ mark :: rest := by
    refine Text.dropWhile_eq_self_of_head fun c hc => decide_eq_false ?_
    have hlt : 0x20 < c.toNat := by
      cases before with
      | nil =>
          cases hc
          exact hmark
      | cons d more =>
          cases hc
          exact hbefore _ List.mem_cons_self
    omega
  have hend : (mark :: rest).rdropWhile (·.toNat ≤ 0x20) ≠ [] := by
    rw [ne_eq, List.rdropWhile_eq_nil_iff]
    intro hall
    have := of_decide_eq_true (hall mark List.mem_cons_self)
    omega
  have hall : front.filter (fun c => !isTabOrBreak c) = front := by
    refine List.filter_eq_self.mpr fun c hc => ?_
    rw [isTabOrBreak_of_visible (hfront c hc)]
    rfl
  show (List.rdropWhile _ ((front ++ mark :: rest).dropWhile _)).filter _ =
    front ++ (List.rdropWhile _ ((mark :: rest).dropWhile _)).filter _
  rw [hstart front hfront, ← List.nil_append (mark :: rest), hstart [] (by simp),
    List.nil_append, Text.rdropWhile_append front hend, List.filter_append, hall]

/-- A visible character at the beginning stays there. -/
theorem clean_cons {mark : Char} (hmark : 0x20 < mark.toNat) (rest : Text) :
    ∃ kept, clean (mark :: rest) = mark :: kept := by
  have hstart : (mark :: rest).dropWhile (·.toNat ≤ 0x20) = mark :: rest :=
    List.dropWhile_cons_of_neg (by simpa using hmark)
  obtain ⟨kept, -, hkept⟩ := Text.rdropWhile_append_cons (p := (·.toNat ≤ 0x20)) (c := mark)
    (by simpa using hmark) [] rest
  refine ⟨kept.filter fun c => !isTabOrBreak c, ?_⟩
  show (List.rdropWhile _ ((mark :: rest).dropWhile _)).filter _ = _
  rw [List.nil_append, List.nil_append] at hkept
  rw [hstart, hkept, List.filter_cons, isTabOrBreak_of_visible hmark]
  rfl

/-- A scheme has no blanks and controls. -/
theorem IsScheme.visible {scheme : Text} (h : IsScheme scheme) : ∀ c ∈ scheme, 0x20 < c.toNat := by
  intro c hc
  by_contra hle
  have hlt : c.toNat < 128 := by omega
  have hall := Text.forall_ascii
    (P := fun c => isSchemeChar c = true → 0x20 < c.toNat) (by decide +kernel) hlt
  exact hle (hall (h.chars c hc))

/-- A text that begins with a scheme has it. -/
theorem scheme_of_parse_append {scheme : Text} (hscheme : IsScheme scheme) {rest : Text} {u : Url}
    (h : parse (scheme ++ ':' :: rest) = .ok u) : u.scheme = scheme := by
  obtain ⟨kept, hkept⟩ := clean_cons (by decide : 0x20 < (':' : Char).toNat) rest
  have hread : readScheme? (clean (scheme ++ ':' :: rest)) = some (scheme, kept) := by
    rw [clean_append hscheme.visible (by decide), hkept, hscheme.readScheme?]
  exact scheme_of_parse hread h

/-- **A text that begins with a web scheme, a canonical authority and a slash is
a URL with both**, whatever follows. -/
theorem parse_front {scheme : Text} (hweb : scheme = "http".toList ∨ scheme = "https".toList)
    {a : Authority} (ha : a.Canonical scheme) (rest : Text) :
    ∃ list tail, parse (scheme ++ ':' :: '/' :: '/' :: (a.text ++ '/' :: rest)) =
      .ok (ofTail scheme (some a) (.segments list) tail) := by
  obtain ⟨kept, hkept⟩ := clean_cons (by decide : 0x20 < ('/' : Char).toNat) rest
  have hclean : clean (scheme ++ ':' :: '/' :: '/' :: (a.text ++ '/' :: rest)) =
      scheme ++ ':' :: '/' :: '/' :: (a.text ++ '/' :: kept) := by
    simpa [hkept] using clean_append (front_chars hweb ha) (by decide : 0x20 < ('/' : Char).toNat)
      rest
  exact ⟨_, _, parse_of_clean hweb ha hclean⟩

end JobsGateway.Url
