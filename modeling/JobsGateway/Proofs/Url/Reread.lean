import JobsGateway.Proofs.Url.Authority
import JobsGateway.Proofs.Url.Path

/-!
# URLs of the web read again

A URL that is asked for over HTTP has, once it was read, an authority, segments,
and encoded texts. Written out with something else after its authority, it is
cut at the same marks again.
-/

namespace JobsGateway.Url

/-- A URL for HTTP as the reader leaves it. -/
structure IsCanonical (u : Url) (a : Authority) (segments : List Text) : Prop where
  web : u.isWeb = true
  authority : u.authority = some a
  canonical : a.Canonical u.scheme
  path : u.path = .segments segments
  nonempty : segments ≠ []
  segment : ∀ s ∈ segments, IsSegment s
  query : ∀ q, u.query = some q → ∀ c ∈ q, Percent.inSpecialQuery c = false
  fragment : ∀ f, u.fragment = some f → ∀ c ∈ f, Percent.inFragment c = false

theorem isWeb_iff (u : Url) :
    u.isWeb = true ↔ u.scheme = "http".toList ∨ u.scheme = "https".toList := by
  simp [isWeb]

theorem kind_of_web {scheme : Text} (h : scheme = "http".toList ∨ scheme = "https".toList) :
    SchemeKind.of scheme = .special := by
  rcases h with rfl | rfl <;> decide

/-! ## URLs that were read -/

theorem readHierarchy_ok {scheme : Text} {special : Bool} {text : Text} {u : Url}
    (h : readHierarchy scheme special text = .ok u) :
    ∃ a more rest tail path,
      readAuthority scheme special more (text.takeWhile (!endsAuthority special ·)) =
        .ok (a, rest) ∧
      u = ofTail scheme (some a) (.segments (readPathAfter special path)) tail := by
  unfold readHierarchy at h
  simp only [bind, Except.bind, pure, Except.pure] at h
  split at h
  · cases h
  · rename_i found hread
    cases h
    exact ⟨found.1, _, found.2, _, _, hread, rfl⟩

theorem readPathAfter_segments (text : Text) :
    readPathAfter true text ≠ [] ∧ ∀ s ∈ readPathAfter true text, IsSegment s := by
  unfold readPathAfter
  split
  · exact ⟨by simp, by simp [isSegment_nil]⟩
  · split
    · exact ⟨readSegments_ne_nil _, fun s => isSegment_of_readSegments⟩
    · exact ⟨readSegments_ne_nil _, fun s => isSegment_of_readSegments⟩

theorem canonical_of_readHierarchy {scheme text : Text} {u : Url}
    (h : readHierarchy scheme true text = .ok u) (hweb : u.isWeb = true) :
    ∃ a segments, u.IsCanonical a segments := by
  obtain ⟨a, more, rest, tail, path, hread, rfl⟩ := readHierarchy_ok h
  obtain ⟨hne, hsegments⟩ := readPathAfter_segments path
  have hkind : SchemeKind.of scheme = .special := kind_of_web ((isWeb_iff _).mp hweb)
  refine ⟨a, _, hweb, rfl, Authority.canonical_of_readAuthority hread, rfl, hne, hsegments, ?_, ?_⟩
  · intro q hq c hc
    obtain ⟨text, -, rfl⟩ := Option.map_eq_some_iff.mp hq
    rw [hkind] at hc
    exact Percent.not_set_of_mem_encode Percent.sparesEscapes_inSpecialQuery hc
  · intro f hf c hc
    obtain ⟨text, -, rfl⟩ := Option.map_eq_some_iff.mp hf
    exact Percent.not_set_of_mem_encode Percent.sparesEscapes_inFragment hc

theorem readFile_ok {text : Text} {u : Url} (h : readFile text = .ok u) :
    ∃ host rest, u = ofFile host rest := by
  unfold readFile at h
  split at h
  · split at h
    · simp only at h
      split at h
      · cases h
        exact ⟨_, _, rfl⟩
      · simp only [bind, Except.bind, pure, Except.pure] at h
        split at h
        · cases h
        · cases h
          exact ⟨_, _, rfl⟩
    · cases h
      exact ⟨_, _, rfl⟩
  · cases h
    exact ⟨_, _, rfl⟩

theorem scheme_of_readFile {text : Text} {u : Url} (h : readFile text = .ok u) :
    u.scheme = "file".toList := by
  obtain ⟨host, rest, rfl⟩ := readFile_ok h
  rfl

theorem scheme_of_readPlain {scheme text : Text} {u : Url} (h : readPlain scheme text = .ok u) :
    u.scheme = scheme := by
  unfold readPlain at h
  split at h
  · obtain ⟨a, more, rest, tail, path, -, rfl⟩ := readHierarchy_ok h
    rfl
  · cases h
    rfl
  · cases h
    rfl

/-- A URL for HTTP that was read is canonical. -/
theorem canonical_of_parse {text : Text} {u : Url} (h : parse text = .ok u)
    (hweb : u.isWeb = true) : ∃ a segments, u.IsCanonical a segments := by
  unfold parse at h
  split at h
  · cases h
  · rename_i scheme rest _
    split at h
    · rw [isWeb_iff, scheme_of_readFile h] at hweb
      exact absurd hweb (by decide)
    · exact canonical_of_readHierarchy h hweb
    · rename_i hplain
      rw [isWeb_iff, scheme_of_readPlain h] at hweb
      rw [kind_of_web hweb] at hplain
      cases hplain

/-! ## Cutting the text again -/

theorem isTabOrBreak_of_visible {c : Char} (h : 0x20 < c.toNat) : isTabOrBreak c = false := by
  have hne (d : Char) (hd : d.toNat ≤ 0x20) : (c == d) = false := by
    rw [beq_eq_false_iff_ne]
    rintro rfl
    omega
  simp [isTabOrBreak, hne '\t' (by decide), hne '\n' (by decide), hne '\r' (by decide)]

/-- A text without blanks, controls, tabs and line breaks counts as a whole. -/
theorem clean_eq_self {text : Text} (h : ∀ c ∈ text, 0x20 < c.toNat) : clean text = text := by
  have hback : ∀ c ∈ text.reverse, 0x20 < c.toNat := fun c hc => h c (List.mem_reverse.mp hc)
  have hdrop {s : Text} (hs : ∀ c ∈ s, 0x20 < c.toNat) : s.dropWhile (·.toNat ≤ 0x20) = s := by
    refine Text.dropWhile_eq_self_of_head fun c hc => decide_eq_false ?_
    have := hs c (List.mem_of_head? hc)
    omega
  unfold clean
  simp only [hdrop h, hdrop hback, List.reverse_reverse]
  rw [List.filter_eq_self]
  intro c hc
  rw [isTabOrBreak_of_visible (h c hc)]
  rfl

/-- A scheme as the reader leaves it: a letter and scheme characters, in lower
case. -/
structure IsScheme (scheme : Text) : Prop where
  start : ∃ c more, scheme = c :: more ∧ c.isAlpha = true
  chars : ∀ c ∈ scheme, isSchemeChar c = true
  lower : scheme.map Char.toLower = scheme

theorem isScheme_of_web {scheme : Text}
    (hweb : scheme = "http".toList ∨ scheme = "https".toList) : IsScheme scheme where
  start := by
    rcases hweb with rfl | rfl <;> exact ⟨_, _, rfl, by decide⟩
  chars := by
    refine List.all_eq_true.mp ?_
    rcases hweb with rfl | rfl <;> decide
  lower := by
    rcases hweb with rfl | rfl <;> decide

/-- A scheme is read back from the text before its colon. -/
theorem IsScheme.readScheme? {scheme : Text} (h : IsScheme scheme) (rest : Text) :
    Url.readScheme? (scheme ++ ':' :: rest) = some (scheme, rest) := by
  have htake := Text.takeWhile_append_mark h.chars (by rfl : isSchemeChar ':' = false) rest
  have hdrop := Text.dropWhile_append_mark h.chars (by rfl : isSchemeChar ':' = false) rest
  have hlower := h.lower
  obtain ⟨c, more, rfl, hc⟩ := h.start
  unfold Url.readScheme?
  simp only [List.cons_append] at htake hdrop ⊢
  simp only [hc, if_true, htake, hdrop, hlower]

theorem cutTail_slash (rest : Text) :
    cutTail ('/' :: rest) =
      { cutTail rest with path := '/' :: (cutTail rest).path } := by
  simp only [cutTail, cutAt]
  rw [List.takeWhile_cons_of_pos (by decide), List.dropWhile_cons_of_pos (by decide),
    List.takeWhile_cons_of_pos (by decide), List.dropWhile_cons_of_pos (by decide)]

/-- The reader of a hierarchy cuts off the authority and reads it. -/
theorem readHierarchy_append {scheme : Text} {special : Bool} {text : Text}
    (htext : ∀ c ∈ text, Authority.isTextChar c = true) {mark : Char}
    (hmark : endsAuthority special mark = true) (rest : Text) :
    readHierarchy scheme special (text ++ mark :: rest) =
      (readAuthority scheme special true text).map fun p =>
        ofTail scheme (some p.1)
          (.segments (readPathAfter special (cutTail (p.2 ++ mark :: rest)).path))
          (cutTail (p.2 ++ mark :: rest)) := by
  have hinside : ∀ c ∈ text, (!endsAuthority special c) = true := by
    intro c hc
    have hends := (Bool.and_eq_true_iff.mp (htext c hc)).2
    cases special with
    | true => exact hends
    | false =>
        simp only [endsAuthority, Bool.not_eq_true', Bool.or_eq_false_iff] at hends ⊢
        exact ⟨hends.1, rfl⟩
  have hend : (!endsAuthority special mark) = false := by rw [hmark, Bool.not_true]
  unfold readHierarchy
  rw [Text.takeWhile_append_mark hinside hend, Text.dropWhile_append_mark hinside hend]
  show (readAuthority scheme special true text >>= _) = _
  cases readAuthority scheme special true text <;> rfl

/-- A text that, once cleaned, goes on with two slashes and an authority is read
as a hierarchy. -/
theorem parse_eq_readHierarchy {scheme : Text} (hscheme : IsScheme scheme)
    (hkind : SchemeKind.of scheme ≠ .file) {authority : Text} (hne : authority ≠ [])
    (hauthority : ∀ c ∈ authority, Authority.isTextChar c = true) {text rest : Text}
    (hclean : clean text = scheme ++ ':' :: '/' :: '/' :: (authority ++ rest)) :
    parse text = readHierarchy scheme (SchemeKind.of scheme).isSpecial (authority ++ rest) := by
  unfold parse
  rw [hclean, hscheme.readScheme?]
  simp only
  cases hof : SchemeKind.of scheme with
  | file => exact absurd hof hkind
  | plain => rfl
  | special =>
      -- The reader passes over any number of slashes, and an authority begins with none.
      obtain ⟨c, more, rfl⟩ := List.exists_cons_of_ne_nil hne
      have hc : isSeparator true c = false := by
        have hends := (Bool.and_eq_true_iff.mp (hauthority c List.mem_cons_self)).2
        simp only [endsAuthority, Bool.not_eq_true', Bool.or_eq_false_iff] at hends
        rw [isSeparator, hends.1.1.1, Bool.false_or]
        exact hends.2
      show readHierarchy scheme true (List.dropWhile _ _) = _
      rw [List.dropWhile_cons_of_pos (by decide), List.dropWhile_cons_of_pos (by decide),
        List.cons_append, List.dropWhile_cons_of_neg (by simp [hc])]
      rfl

/-- A text that, once cleaned, goes on after a canonical authority is read as
that authority and then the rest. -/
theorem parse_of_clean {scheme : Text} (hweb : scheme = "http".toList ∨ scheme = "https".toList)
    {a : Authority} (ha : a.Canonical scheme) {text rest : Text}
    (hclean : clean text = scheme ++ ':' :: '/' :: '/' :: (a.text ++ '/' :: rest)) :
    parse text =
      .ok (ofTail scheme (some a) (.segments (readSegments true (cutTail rest).path))
        (cutTail rest)) := by
  have hkind := kind_of_web hweb
  rw [parse_eq_readHierarchy (isScheme_of_web hweb) (by rw [hkind]; decide) ha.text_ne_nil
    (fun _ hc => ha.text hc) hclean, hkind]
  show readHierarchy scheme true _ = _
  rw [readHierarchy_append (fun _ hc => ha.text hc) rfl, ha.readAuthority]
  simp only [Except.map, List.nil_append, cutTail_slash]
  rfl

/-- The text of a URL up to its path has no blanks and controls. -/
theorem front_chars {scheme : Text} (hweb : scheme = "http".toList ∨ scheme = "https".toList)
    {a : Authority} (ha : a.Canonical scheme) :
    ∀ c ∈ scheme ++ ':' :: '/' :: '/' :: a.text, 0x20 < c.toNat := by
  intro c hc
  have hscheme : ∀ d ∈ scheme, 0x20 < d.toNat := by
    rcases hweb with rfl | rfl <;> simp
  simp only [List.mem_append, List.mem_cons] at hc
  rcases hc with hc | rfl | rfl | rfl | hc
  · exact hscheme c hc
  · decide
  · decide
  · decide
  · have := ha.text hc
    rw [Authority.isTextChar, Bool.and_eq_true] at this
    exact of_decide_eq_true this.1

/-- **What stands after the authority is read as before.** The reader gets to a
canonical authority and leaves the rest to the path, the query and the
fragment. -/
theorem parse_append {scheme : Text} (hweb : scheme = "http".toList ∨ scheme = "https".toList)
    {a : Authority} (ha : a.Canonical scheme) {rest : Text} (hrest : ∀ c ∈ rest, 0x20 < c.toNat) :
    parse (scheme ++ ':' :: '/' :: '/' :: (a.text ++ '/' :: rest)) =
      .ok (ofTail scheme (some a) (.segments (readSegments true (cutTail rest).path))
        (cutTail rest)) := by
  refine parse_of_clean hweb ha (clean_eq_self fun c hc => ?_)
  have htext : scheme ++ ':' :: '/' :: '/' :: (a.text ++ '/' :: rest) =
      (scheme ++ ':' :: '/' :: '/' :: a.text) ++ '/' :: rest := by simp
  rw [htext, List.mem_append, List.mem_cons] at hc
  rcases hc with hc | rfl | hc
  · exact front_chars hweb ha c hc
  · decide
  · exact hrest c hc

/-- A path without question mark and number sign is all there is. -/
theorem cutTail_plain {path : Text} (h : ∀ c ∈ path, c ≠ '?' ∧ c ≠ '#') :
    cutTail path = ⟨path, none, none⟩ := by
  have hmark {mark : Char} (hall : ∀ c ∈ path, c ≠ mark) : cutAt mark path = (path, none) := by
    have hne : ∀ c ∈ path, (c != mark) = true := fun c hc => bne_iff_ne.mpr (hall c hc)
    rw [cutAt, List.takeWhile_eq_self_iff.mpr hne, List.dropWhile_eq_nil_iff.mpr hne]
  simp only [cutTail, hmark fun c hc => (h c hc).2, hmark fun c hc => (h c hc).1]

/-- A question mark or number sign ends the path, whatever follows. -/
theorem path_cutTail_mark {path : Text} (h : ∀ c ∈ path, c ≠ '?' ∧ c ≠ '#') {mark : Char}
    (hmark : mark = '?' ∨ mark = '#') (rest : Text) :
    (cutTail (path ++ mark :: rest)).path = path := by
  have hquestion : ∀ c ∈ path, (c != '?') = true := fun c hc => bne_iff_ne.mpr (h c hc).1
  have hnumber : ∀ c ∈ path, (c != '#') = true := fun c hc => bne_iff_ne.mpr (h c hc).2
  simp only [cutTail, cutAt]
  rcases hmark with rfl | rfl
  · have hbefore : (path ++ '?' :: rest).takeWhile (· != '#') =
        path ++ '?' :: rest.takeWhile (· != '#') := by
      rw [List.takeWhile_append_of_pos hnumber, List.takeWhile_cons_of_pos (by decide)]
    rw [hbefore, Text.takeWhile_append_mark hquestion (by rfl)]
  · rw [Text.takeWhile_append_mark hnumber (by rfl), List.takeWhile_eq_self_iff.mpr hquestion]

end JobsGateway.Url
