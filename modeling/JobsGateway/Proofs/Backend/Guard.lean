import JobsGateway.Proofs.Backend.Target
import JobsGateway.Proofs.Route.Filling
import JobsGateway.Proofs.Url.Prefix

/-!
# The guard on captured values

A value that is put between the path of an origin and another segment is read
back as one segment, or it is not: it may stand for a directory, or be parted by
a backslash. The guard on captured values refuses exactly the values of the
second kind.
-/

namespace JobsGateway

namespace Url

/-! ## A piece between others -/

/-- Pieces that stand for no directory are put on the stack, whatever follows. -/
theorem resolveOnto_append {pieces : List Text} (stack : List Text)
    (h : ∀ piece ∈ pieces, isSingleDot piece = false ∧ isDoubleDot piece = false)
    {next : List Text} (hnext : next ≠ []) :
    resolveOnto stack (pieces ++ next) = resolveOnto (pieces.reverse ++ stack) next := by
  induction pieces generalizing stack with
  | nil => rfl
  | cons piece rest ih =>
      obtain ⟨hsingle, hdouble⟩ := h piece (by simp)
      obtain ⟨second, more, hmore⟩ := List.exists_cons_of_ne_nil
        (List.append_ne_nil_of_right_ne_nil rest hnext)
      rw [List.cons_append, hmore, resolveOnto]
      simp only [hsingle, hdouble, Bool.false_eq_true, if_false]
      rw [← hmore, ih (piece :: stack) fun p hp => h p (List.mem_cons_of_mem piece hp)]
      simp

theorem dropLastSegment_suffix (stack : List Text) : dropLastSegment stack <:+ stack := by
  unfold dropLastSegment
  split
  · exact List.suffix_refl _
  · split
    · exact List.suffix_refl _
    · exact List.suffix_cons _ _

section Between

variable {base : List Text} {value : Text}

theorem readSegments_between (hbase : ∀ s ∈ base, IsSegment s) (hslash : '/' ∉ value)
    (hbackslash : '\\' ∉ value) :
    readSegments true (Text.join '/' (base ++ [value, ['x']])) =
      (resolveOnto base.reverse [Percent.encode Percent.inPath value, ['x']]).reverse := by
  have hpieces : ∀ piece ∈ base ++ [value, ['x']], '/' ∉ piece ∧ '\\' ∉ piece := by
    intro piece hpiece
    simp only [List.mem_append, List.mem_cons, List.not_mem_nil, or_false] at hpiece
    rcases hpiece with hpiece | rfl | rfl
    · exact ⟨(hbase piece hpiece).noSlash, (hbase piece hpiece).noBackslash⟩
    · exact ⟨hslash, hbackslash⟩
    · decide
  have hjoint : '\\' ∉ Text.join '/' (base ++ [value, ['x']]) := by
    intro hmem
    rcases Text.mem_join hmem with hmark | ⟨piece, hpiece, hmem⟩
    · exact absurd hmark (by decide)
    · exact (hpieces piece hpiece).2 hmem
  rw [readSegments, cutSegments_eq_split hjoint,
    Text.split_join (by simp) fun piece hpiece => (hpieces piece hpiece).1, List.map_append,
    map_encode_segments hbase, resolve,
    resolveOnto_append [] (fun s hs => ⟨(hbase s hs).single, (hbase s hs).double⟩) (by simp),
    List.append_nil]
  rfl

/-- A value that stands for no directory is read as one segment. -/
theorem readSegments_of_stays (hbase : ∀ s ∈ base, IsSegment s) (h : StaysSegment value) :
    readSegments true (Text.join '/' (base ++ [value, ['x']])) =
      base ++ [Percent.encode Percent.inPath value, ['x']] := by
  rw [readSegments_between hbase h.noSlash h.noBackslash, resolveOnto, isDoubleDot_encode,
    isSingleDot_encode, h.single, h.double]
  simp [resolveOnto, isSingleDot, isDoubleDot, afterDot?]

/-- A dot segment is not among the segments that are read, and what is left of
those before it is a beginning of them. -/
theorem readSegments_of_dots (hbase : ∀ s ∈ base, IsSegment s) (hslash : '/' ∉ value)
    (hbackslash : '\\' ∉ value) (hdots : isSingleDot value = true ∨ isDoubleDot value = true) :
    ∃ kept, kept <+: base ∧
      readSegments true (Text.join '/' (base ++ [value, ['x']])) = kept ++ [['x']] := by
  have hlast (stack : List Text) : resolveOnto stack [['x']] = ['x'] :: stack := rfl
  rw [readSegments_between hbase hslash hbackslash, resolveOnto, isDoubleDot_encode,
    isSingleDot_encode]
  cases hdouble : isDoubleDot value with
  | true =>
      refine ⟨(dropLastSegment base.reverse).reverse, ?_, by simp [hlast]⟩
      exact List.reverse_suffix.mp (by simpa using dropLastSegment_suffix base.reverse)
  | false =>
      have hsingle : isSingleDot value = true := by simpa [hdouble] using hdots
      exact ⟨base, List.prefix_refl base, by simp [hsingle, hlast]⟩

end Between

/-- A backslash is in no segment that was read. -/
theorem backslash_notMem_readSegments (text : Text) :
    '\\' ∉ (readSegments true text).flatMap ('/' :: ·) := by
  intro hmem
  obtain ⟨segment, hsegment, hc⟩ := List.mem_flatMap.mp hmem
  rcases List.mem_cons.mp hc with heq | hc
  · exact absurd heq (by decide)
  · exact (isSegment_of_readSegments hsegment).noBackslash hc

theorem backslash_mem_encode {value : Text} (h : '\\' ∈ value) :
    '\\' ∈ Percent.encode Percent.inPath value :=
  List.mem_flatMap.mpr ⟨'\\', h, List.mem_singleton_self '\\'⟩

/-! ## The text that is read -/

/-- Blanks and controls inside a text count, as long as they are no tabs and line
breaks. -/
theorem clean_of_ends {first last : Char} (hfirst : 0x20 < first.toNat)
    (hlast : 0x20 < last.toNat) {inner : Text} (hinner : ∀ c ∈ inner, isTabOrBreak c = false) :
    clean (first :: (inner ++ [last])) = first :: (inner ++ [last]) := by
  have hfront : (first :: (inner ++ [last])).dropWhile (·.toNat ≤ 0x20) =
      first :: (inner ++ [last]) := List.dropWhile_cons_of_neg (by simpa using hfirst)
  have hback : (first :: (inner ++ [last])).reverse.dropWhile (·.toNat ≤ 0x20) =
      (first :: (inner ++ [last])).reverse := by
    rw [← List.cons_append, List.reverse_append]
    exact List.dropWhile_cons_of_neg (by simpa using hlast)
  unfold clean
  simp only [hfront, hback, List.reverse_reverse]
  refine List.filter_eq_self.mpr fun c hc => ?_
  simp only [List.mem_cons, List.mem_append, List.not_mem_nil, or_false] at hc
  rcases hc with rfl | hc | rfl
  · rw [isTabOrBreak_of_visible hfirst]
    rfl
  · rw [hinner c hc]
    rfl
  · rw [isTabOrBreak_of_visible hlast]
    rfl

end Url

namespace Backend

open Url (baseOf IsCanonical)

/-- The characters that a captured value cannot hold: those that part a path or
end it, and those that no URL holds. -/
def partingChars : Text := "/?#\t\n\r".toList

variable {origin : Url} {a : Authority} {segments : List Text} {value : Text}

theorem plain_of_notParting {c : Char} (h : c ∉ partingChars) :
    c ≠ '?' ∧ c ≠ '#' ∧ Url.isTabOrBreak c = false := by
  simp only [partingChars, String.reduceToList, List.mem_cons, List.not_mem_nil, or_false,
    not_or] at h
  simp [Url.isTabOrBreak, h]

/-- Nothing of a value behind the path of an origin is passed over: the front of
the text is visible, and the last segment ends what follows it. -/
theorem clean_between (h : origin.IsCanonical a segments) (hquery : origin.query = none)
    (hfragment : origin.fragment = none) (hvalue : ∀ c ∈ value, c ∉ partingChars) :
    Url.clean (origin.text.rdropWhile (· == '/') ++ '/' :: (value ++ ['/', 'x'])) =
      origin.scheme ++ ':' :: '/' :: '/' ::
        (a.text ++ '/' :: Text.join '/' (baseOf segments ++ [value, ['x']])) := by
  have hfront : ∀ c ∈ origin.front a ++ (baseOf segments).flatMap ('/' :: ·), 0x20 < c.toNat := by
    intro c hc
    rcases List.mem_append.mp hc with hc | hc
    · exact Url.front_chars ((Url.isWeb_iff origin).mp h.web) h.canonical c hc
    · obtain ⟨s, hs, hc⟩ := List.mem_flatMap.mp hc
      rcases List.mem_cons.mp hc with rfl | hc
      · decide
      · exact (staysInPath_of_isSegment (h.segment s (Url.mem_of_mem_baseOf hs)) c hc).visible
  have hinner : ∀ c ∈ value ++ ['/'], Url.isTabOrBreak c = false := by
    intro c hc
    rcases List.mem_append.mp hc with hc | hc
    · exact (plain_of_notParting (hvalue c hc)).2.2
    · rw [List.mem_singleton.mp hc]
      rfl
  have hends := Url.clean_of_ends (by decide : 0x20 < '/'.toNat) (by decide : 0x20 < 'x'.toNat)
    hinner
  rw [List.append_assoc] at hends
  rw [h.rdropWhile_text hquery hfragment, Url.clean_append hfront (by decide)]
  show _ ++ Url.clean ('/' :: (value ++ (['/'] ++ ['x']))) = _
  rw [hends, Text.mark_cons_join (by simp), List.flatMap_append, Url.front]
  simp

/-- Neither does a query or a fragment begin there. -/
theorem noMark_between (h : origin.IsCanonical a segments)
    (hvalue : ∀ c ∈ value, c ∉ partingChars) :
    ∀ c ∈ Text.join '/' (baseOf segments ++ [value, ['x']]), c ≠ '?' ∧ c ≠ '#' := by
  intro c hc
  rcases Text.mem_join hc with rfl | ⟨piece, hpiece, hc⟩
  · decide
  · simp only [List.mem_append, List.mem_cons, List.not_mem_nil, or_false] at hpiece
    rcases hpiece with hpiece | hpiece | hpiece
    · exact (staysInPath_of_isSegment (h.segment piece (Url.mem_of_mem_baseOf hpiece)) c hc).noMark
    · obtain ⟨hquestion, hhash, -⟩ := plain_of_notParting (hvalue c (hpiece ▸ hc))
      exact ⟨hquestion, hhash⟩
    · rw [hpiece, List.mem_singleton] at hc
      rw [hc]
      decide

/-- A value behind the path of an origin is read as a part of the path. -/
theorem parse_between (h : origin.IsCanonical a segments) (hquery : origin.query = none)
    (hfragment : origin.fragment = none) (hvalue : ∀ c ∈ value, c ∉ partingChars) :
    Url.parse (origin.text.rdropWhile (· == '/') ++ '/' :: (value ++ ['/', 'x'])) =
      .ok (Url.ofTail origin.scheme (some a)
        (.segments (Url.readSegments true (Text.join '/' (baseOf segments ++ [value, ['x']]))))
        ⟨Text.join '/' (baseOf segments ++ [value, ['x']]), none, none⟩) := by
  have hparse := Url.parse_of_clean ((Url.isWeb_iff origin).mp h.web) h.canonical
    (clean_between h hquery hfragment hvalue)
  rwa [Url.cutTail_plain (noMark_between h hvalue)] at hparse

/-- A value is read back as one segment, escaped, exactly where the guard lets it
through. -/
theorem isUnsafe_eq_false_iff_path (h : origin.IsCanonical a segments)
    (hslash : '/' ∉ value) :
    isUnsafe value = false ↔
      (UrlPath.segments
        (Url.readSegments true (Text.join '/' (baseOf segments ++ [value, ['x']])))).text =
        origin.path.text.rdropWhile (· == '/') ++
          '/' :: (Percent.encode Percent.inPath value ++ ['/', 'x']) := by
  have hbase : ∀ s ∈ baseOf segments, Url.IsSegment s :=
    fun s hs => h.segment s (Url.mem_of_mem_baseOf hs)
  have hpath : origin.path.text.rdropWhile (· == '/') =
      (baseOf segments).flatMap ('/' :: ·) := by
    rw [h.path]
    exact h.rdropWhile_path
  rw [hpath]
  simp only [UrlPath.text]
  constructor
  · intro hsafe
    rw [Url.readSegments_of_stays hbase (staysSegment_of_safe hslash hsafe), List.flatMap_append]
    simp
  · intro htext
    rw [Bool.eq_false_iff]
    intro hunsafe
    by_cases hbackslash : '\\' ∈ value
    · -- The reader leaves no backslash, and escaping leaves them all.
      have hmem := Url.backslash_notMem_readSegments
        (Text.join '/' (baseOf segments ++ [value, ['x']]))
      rw [htext] at hmem
      exact hmem (by simp [Url.backslash_mem_encode hbackslash])
    · have hdots := isUnsafe_iff.mp hunsafe
      rw [Misleads, ← or_assoc] at hdots
      have hdots := hdots.resolve_right hbackslash
      obtain ⟨kept, ⟨more, hmore⟩, hread⟩ :=
        Url.readSegments_of_dots hbase hslash hbackslash hdots
      -- Without the dot segment the path is too short.
      have hlength := congrArg List.length htext
      rw [hread, ← hmore] at hlength
      simp only [List.flatMap_append, List.flatMap_cons, List.flatMap_nil, List.length_append,
        List.length_cons, List.length_nil] at hlength
      omega

/-- **The guard is exact.** Take any value without the characters that part or end
a path, and put it behind the path of an origin for HTTP that has neither query
nor fragment, with a segment behind it. The guard lets the value through exactly
if the path that is read from this text is that of the origin without slashes at
its end, then the value with single characters escaped, then that segment. So the
values that it refuses are those with a backslash, and the spellings of one and
of two dots that the reader of URLs knows. -/
theorem guard_lets_segments_through {text : Text} {origin : Url}
    (hparse : Url.parse text = .ok origin) (hweb : origin.isWeb = true)
    (hquery : origin.query = none) (hfragment : origin.fragment = none) {value : Text}
    (hvalue : ∀ c ∈ value, c ∉ partingChars) :
    (∃ url,
      Url.parse (origin.text.rdropWhile (· == '/') ++ '/' :: (value ++ ['/', 'x'])) = .ok url ∧
      url.scheme = origin.scheme ∧ url.authority = origin.authority ∧
      url.query = none ∧ url.fragment = none ∧
      (isUnsafe value = false ↔
        url.path.text = origin.path.text.rdropWhile (· == '/') ++
          '/' :: (Percent.encode Percent.inPath value ++ ['/', 'x']))) ∧
    (isUnsafe value = true ↔ IsDotSegment value ∨ '\\' ∈ value) := by
  obtain ⟨a, segments, h⟩ := Url.canonical_of_parse hparse hweb
  have hslash : '/' ∉ value := fun hmem => hvalue '/' hmem (by decide)
  exact ⟨⟨_, parse_between h hquery hfragment hvalue, rfl, h.authority.symm, rfl, rfl,
    isUnsafe_eq_false_iff_path h hslash⟩, isUnsafe_iff.trans misleads_iff⟩

/-- Values that only look like dot segments are read back as segments, and two
dots of which one is escaped are not. -/
theorem lookalikes_of_dots_stay_segments :
    ∃ origin, Url.parse "http://jobs:80/v1/../api//".toList = .ok origin ∧
      (∀ value ∈ ["...", "%252e", "%%2e2e", ".%2e.", "v1.2", ""].map String.toList,
        ∃ url, Url.parse ("http://jobs/api/".toList ++ (value ++ "/x".toList)) = .ok url ∧
          url.path.text = "/api/".toList ++ (value ++ "/x".toList)) ∧
      ∃ url, Url.parse ("http://jobs/api/".toList ++ (".%2E".toList ++ "/x".toList)) = .ok url ∧
        url.path.text ≠ "/api/".toList ++ (".%2E".toList ++ "/x".toList) := by
  have hparse : (Url.parse "http://jobs:80/v1/../api//".toList).toOption =
      some ⟨"http".toList, some ⟨[], [], some (.domain "jobs".toList), none⟩,
        .segments ["api".toList, [], []], none, none⟩ := by decide +kernel
  have hguard {value : Text} (hvalue : value.all (· ∉ partingChars) = true) :=
    guard_lets_segments_through (Outcome.toOption_eq_some_iff.mp hparse) (by decide) rfl rfl
      fun c hc => of_decide_eq_true (List.all_eq_true.mp hvalue c hc)
  refine ⟨_, Outcome.toOption_eq_some_iff.mp hparse, ?_, ?_⟩
  · intro value hvalue
    have hall : ∀ value ∈ ["...", "%252e", "%%2e2e", ".%2e.", "v1.2", ""].map String.toList,
        value.all (· ∉ partingChars) = true ∧ isUnsafe value = false ∧
          Percent.encode Percent.inPath value = value := by decide
    obtain ⟨hchars, hsafe, hplain⟩ := hall value hvalue
    obtain ⟨⟨url, hread, -, -, -, -, hpath⟩, -⟩ := hguard hchars
    refine ⟨url, hread, ?_⟩
    rw [hpath.mp hsafe, hplain]
    rfl
  · have hchars : ".%2E".toList.all (· ∉ partingChars) = true := by decide
    obtain ⟨⟨url, hread, -, -, -, -, hpath⟩, -⟩ := hguard hchars
    refine ⟨url, hread, fun htext => ?_⟩
    exact absurd (hpath.mpr htext) (by decide)

end Backend

end JobsGateway
