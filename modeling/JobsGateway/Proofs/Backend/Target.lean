import JobsGateway.Backend.Basic
import JobsGateway.Proofs.Outcome
import JobsGateway.Proofs.Route.Capture
import JobsGateway.Proofs.Url.Reread

/-!
# Where a request goes

The origin of a backend is written out, loses the slashes at its end, and is
read again with a backend path behind it. If nothing follows the path of the
origin, that text has the segments of the origin and then the pieces of the
backend path, and it is read as just those. If a query or a fragment follows,
the backend path becomes part of it, and the path of the origin is all there is.
-/

namespace JobsGateway

/-- The characters of a path that a request can bring. -/
def Target.isPathChar (c : Char) : Bool :=
  0x20 < c.toNat && !"?#<>`".toList.contains c

namespace Url

variable {origin : Url} {a : Authority} {segments : List Text}

/-- The text of a URL up to its path. -/
def front (u : Url) (a : Authority) : Text :=
  u.scheme ++ ':' :: '/' :: '/' :: a.text

theorem IsCanonical.text (h : origin.IsCanonical a segments) :
    origin.text = origin.front a ++ segments.flatMap ('/' :: ·) ++
      (origin.queryText ++ origin.fragmentText) := by
  simp [Url.text, authorityText, h.authority, h.path, UrlPath.text, front]

theorem IsCanonical.rdropWhile_front (h : origin.IsCanonical a segments) :
    (origin.front a).rdropWhile (· == '/') = origin.front a := by
  have hself : a.text.rdropWhile (· == '/') = a.text := by
    rw [List.rdropWhile_eq_self_iff]
    intro hne hlast
    have hmem := List.getLast_mem hne
    rw [beq_iff_eq.mp hlast] at hmem
    exact absurd (h.canonical.text hmem) (by decide)
  have hfront : origin.front a = (origin.scheme ++ [':', '/', '/']) ++ a.text := by
    simp [front]
  rw [hfront, Text.rdropWhile_append _ (by rw [hself]; exact h.canonical.text_ne_nil), hself]

/-- The segments without the empty ones at the end. -/
def baseOf (segments : List Text) : List Text :=
  segments.rdropWhile List.isEmpty

theorem mem_of_mem_baseOf {segment : Text} (h : segment ∈ baseOf segments) :
    segment ∈ segments :=
  (List.rdropWhile_prefix _ _).subset h

theorem map_encode_segments {segments : List Text} (h : ∀ s ∈ segments, IsSegment s) :
    segments.map (Percent.encode Percent.inPath) = segments :=
  (List.map_congr_left fun s hs => Percent.encode_eq_self (h s hs).encoded).trans
    (List.map_id segments)

theorem IsCanonical.rdropWhile_path (h : origin.IsCanonical a segments) :
    (segments.flatMap ('/' :: ·)).rdropWhile (· == '/') =
      (baseOf segments).flatMap ('/' :: ·) :=
  Text.rdropWhile_flatMap fun s hs => (h.segment s hs).noSlash

/-- Without query and fragment, the slashes that an origin loses are those at
the end of its path. -/
theorem IsCanonical.rdropWhile_text (h : origin.IsCanonical a segments)
    (hquery : origin.query = none) (hfragment : origin.fragment = none) :
    origin.text.rdropWhile (· == '/') =
      origin.front a ++ (baseOf segments).flatMap ('/' :: ·) := by
  have htext : origin.text = origin.front a ++ segments.flatMap ('/' :: ·) := by
    rw [h.text, queryText, fragmentText, hquery, hfragment]
    simp
  rw [htext, Text.rdropWhile_append_of_eq_self h.rdropWhile_front, h.rdropWhile_path]

/-- What comes after the path, if anything does, starts with a question mark or
a number sign. -/
theorem tail_cases (u : Url) (h : u.query ≠ none ∨ u.fragment ≠ none) :
    ∃ mark more, u.queryText ++ u.fragmentText = mark :: more ∧ (mark = '?' ∨ mark = '#') := by
  cases hq : u.query with
  | some q => exact ⟨'?', q ++ u.fragmentText, by simp [queryText, hq], Or.inl rfl⟩
  | none =>
      cases hf : u.fragment with
      | some f => exact ⟨'#', f, by simp [queryText, fragmentText, hq, hf], Or.inr rfl⟩
      | none => exact absurd h (by simp [hq, hf])

theorem lt_of_not_control {c : Char} (hcontrols : Percent.controls c = false)
    (hspace : (c == ' ') = false) : 0x20 < c.toNat := by
  rw [beq_eq_false_iff_ne] at hspace
  have hne : c.toNat ≠ 0x20 := fun heq => hspace (Char.toNat_inj.mp heq)
  simp only [Percent.controls, Bool.or_eq_false_iff, decide_eq_false_iff_not] at hcontrols
  omega

theorem IsCanonical.tail_chars (h : origin.IsCanonical a segments) :
    ∀ c ∈ origin.queryText ++ origin.fragmentText, 0x20 < c.toNat := by
  intro c hc
  rcases List.mem_append.mp hc with hc | hc
  · unfold queryText at hc
    split at hc
    · rename_i q hq
      rcases List.mem_cons.mp hc with rfl | hc
      · decide
      · have hclean := h.query q hq c hc
        simp only [Percent.inSpecialQuery, Percent.inQuery, Bool.or_eq_false_iff] at hclean
        exact lt_of_not_control hclean.1.1.1.1.1.1 hclean.1.1.1.1.1.2
    · cases hc
  · unfold fragmentText at hc
    split at hc
    · rename_i f hf
      rcases List.mem_cons.mp hc with rfl | hc
      · decide
      · have hclean := h.fragment f hf c hc
        simp only [Percent.inFragment, Bool.or_eq_false_iff] at hclean
        exact lt_of_not_control hclean.1.1.1.1.1 hclean.1.1.1.1.2
    · cases hc

/-- The slashes at the end of an origin with a query or a fragment are not those
of its path: the mark after the path stays. -/
theorem IsCanonical.rdropWhile_text_of_tail (h : origin.IsCanonical a segments)
    (htail : origin.query ≠ none ∨ origin.fragment ≠ none) :
    ∃ mark kept, (mark = '?' ∨ mark = '#') ∧ (∀ c ∈ mark :: kept, 0x20 < c.toNat) ∧
      origin.text.rdropWhile (· == '/') =
        origin.front a ++ segments.flatMap ('/' :: ·) ++ mark :: kept := by
  obtain ⟨mark, more, hmore, hmark⟩ := origin.tail_cases htail
  have hslash : (mark == '/') = false := by rcases hmark with rfl | rfl <;> rfl
  obtain ⟨kept, hkept, hdrop⟩ := Text.rdropWhile_append_cons (p := (· == '/')) hslash
    (origin.front a ++ segments.flatMap ('/' :: ·)) more
  refine ⟨mark, kept, hmark, fun d hd => ?_, by rw [h.text, hmore, hdrop]⟩
  refine h.tail_chars d (hmore ▸ ?_)
  exact (List.cons_prefix_cons.mpr ⟨rfl, hkept⟩).subset hd

end Url

namespace Backend

open Url (baseOf IsCanonical)

variable {origin : Url} {a : Authority} {segments : List Text}

/-- The query of a target, from the inbound query alone. -/
def ownQuery (query : Option Text) : Option Text :=
  (query.filter (· != [])).map fun q =>
    Percent.encode Percent.inSpecialQuery (q.filter fun c => !Url.isTabOrBreak c)

/-- Pieces that can be put behind an origin as a path. -/
structure IsPath (pieces : List Text) : Prop where
  nonempty : pieces ≠ []
  piece : ∀ p ∈ pieces, p ≠ []
  stays : ∀ p ∈ pieces, Url.StaysSegment p
  chars : ∀ p ∈ pieces, ∀ c ∈ p, Target.isPathChar c = true

/-- A character that the reader of a URL finds in the path it was put in: it is
not trimmed, and does not end the path. -/
structure StaysInPath (c : Char) : Prop where
  visible : 0x20 < c.toNat
  noMark : c ≠ '?' ∧ c ≠ '#'

theorem staysInPath_of_isPathChar {c : Char} (h : Target.isPathChar c = true) :
    StaysInPath c := by
  rw [Target.isPathChar, Bool.and_eq_true, decide_eq_true_eq] at h
  refine ⟨h.1, ?_, ?_⟩ <;> rintro rfl <;> exact absurd h.2 (by decide)

theorem staysInPath_of_isSegment {segment : Text} (h : Url.IsSegment segment) :
    ∀ c ∈ segment, StaysInPath c := by
  intro c hc
  have hpath := h.encoded c hc
  simp only [Percent.inPath, Percent.inFragment, Bool.or_eq_false_iff] at hpath
  obtain ⟨⟨⟨⟨⟨⟨⟨⟨⟨hcontrols, hspace⟩, -⟩, -⟩, -⟩, -⟩, hnumber⟩, hquestion⟩, -⟩, -⟩ := hpath
  refine ⟨Url.lt_of_not_control hcontrols hspace, ?_, ?_⟩
  · simpa using hquestion
  · simpa using hnumber

theorem staysInPath_of_mem_join {pieces : List Text}
    (h : ∀ p ∈ pieces, ∀ c ∈ p, StaysInPath c) : ∀ c ∈ Text.join '/' pieces, StaysInPath c := by
  intro c hc
  rcases Text.mem_join hc with rfl | ⟨p, hp, hc⟩
  · exact ⟨by decide, by decide⟩
  · exact h p hp c hc

theorem IsPath.join_dropWhile {pieces : List Text} (h : IsPath pieces) :
    (Text.join '/' pieces).dropWhile (· == '/') = Text.join '/' pieces := by
  obtain ⟨first, rest, rfl⟩ := List.exists_cons_of_ne_nil h.nonempty
  obtain ⟨c, more, rfl⟩ := List.exists_cons_of_ne_nil (h.piece first (by simp))
  refine Text.dropWhile_eq_self_of_head fun d hd => beq_eq_false_iff_ne.mpr ?_
  have hc : d = c := by
    cases rest with
    | nil => exact (Option.some.inj hd).symm
    | cons next more => exact (Option.some.inj hd).symm
  rw [hc]
  rintro rfl
  exact (h.stays ('/' :: more) (by simp)).noSlash List.mem_cons_self

theorem withQuery_ofTail {scheme : Text} (hweb : scheme = "http".toList ∨ scheme = "https".toList)
    (a : Option Authority) (list : List Text) (tail : Url.Tail) (query : Option Text) :
    (Url.ofTail scheme a (.segments list) tail).withQuery (query.filter (· != [])) =
      { scheme := scheme
        authority := a
        path := .segments list
        query := ownQuery query
        fragment := tail.fragment.map (Percent.encode Percent.inFragment) } := by
  unfold Url.withQuery Url.ofTail
  simp only [Url.kind_of_web hweb, Url.trimBare, ite_self]
  rfl

/-- The target of a backend path, from what is read of the text that the path is
appended to. -/
theorem target_of_parse {pieces list : List Text} {tail : Url.Tail} (h : IsPath pieces)
    (hweb : origin.isWeb = true)
    (hparse : Url.parse (origin.text.rdropWhile (· == '/') ++ '/' :: Text.join '/' pieces) =
      .ok (Url.ofTail origin.scheme (some a) (.segments list) tail))
    (timeout : Duration) (query : Option Text) :
    (ofUrl origin timeout).target (Text.join '/' pieces) query =
      .ok {
        scheme := origin.scheme
        authority := some a
        path := .segments list
        query := ownQuery query
        fragment := tail.fragment.map (Percent.encode Percent.inFragment) } := by
  unfold target
  rw [h.join_dropWhile]
  show (do let url ← Url.parse (origin.text.rdropWhile (· == '/') ++ _); _) = _
  rw [hparse, ← withQuery_ofTail ((Url.isWeb_iff origin).mp hweb)]
  rfl

/-- **Behind an origin without query and fragment, a backend path adds its
pieces to the segments of the origin.** -/
theorem target_eq (h : origin.IsCanonical a segments) (hquery : origin.query = none)
    (hfragment : origin.fragment = none) {pieces : List Text} (hpieces : IsPath pieces)
    (timeout : Duration) (query : Option Text) :
    (ofUrl origin timeout).target (Text.join '/' pieces) query =
      .ok {
        scheme := origin.scheme
        authority := origin.authority
        path := .segments (baseOf segments ++ pieces.map (Percent.encode Percent.inPath))
        query := ownQuery query
        fragment := none } := by
  have hbase : ∀ s ∈ baseOf segments, Url.IsSegment s :=
    fun s hs => h.segment s (Url.mem_of_mem_baseOf hs)
  have hall : ∀ p ∈ baseOf segments ++ pieces, ∀ c ∈ p, StaysInPath c := by
    intro p hp c hc
    rcases List.mem_append.mp hp with hp | hp
    · exact staysInPath_of_isSegment (hbase p hp) c hc
    · exact staysInPath_of_isPathChar (hpieces.chars p hp c hc)
  have hstays : ∀ p ∈ baseOf segments ++ pieces, Url.StaysSegment p := by
    intro p hp
    rcases List.mem_append.mp hp with hp | hp
    · exact (hbase p hp).toStaysSegment
    · exact hpieces.stays p hp
  have htext : origin.text.rdropWhile (· == '/') ++ '/' :: Text.join '/' pieces =
      origin.scheme ++ ':' :: '/' :: '/' ::
        (a.text ++ '/' :: Text.join '/' (baseOf segments ++ pieces)) := by
    rw [h.rdropWhile_text hquery hfragment, Text.mark_cons_join hpieces.nonempty,
      Text.mark_cons_join (by simp [hpieces.nonempty]), List.flatMap_append, Url.front]
    simp
  -- Both parts of the text make one row of segments, so the reader has to know of one path only.
  have hparse := Url.parse_append ((Url.isWeb_iff origin).mp h.web) h.canonical
    (fun c hc => (staysInPath_of_mem_join hall c hc).visible)
  rw [← htext, Url.cutTail_plain fun c hc => (staysInPath_of_mem_join hall c hc).noMark,
    Url.readSegments_join (by simp [hpieces.nonempty]) hstays, List.map_append,
    Url.map_encode_segments hbase] at hparse
  rw [h.authority]
  exact target_of_parse hpieces h.web hparse timeout query

/-- **Behind an origin with a query or a fragment, a backend path is lost.** The
path of the target is that of the origin, whatever the backend path. -/
theorem target_of_tail (h : origin.IsCanonical a segments)
    (htail : origin.query ≠ none ∨ origin.fragment ≠ none) {pieces : List Text}
    (hpieces : IsPath pieces) (timeout : Duration) (query : Option Text) :
    ∃ fragment, (ofUrl origin timeout).target (Text.join '/' pieces) query =
      .ok {
        scheme := origin.scheme
        authority := origin.authority
        path := origin.path
        query := ownQuery query
        fragment := fragment } := by
  obtain ⟨mark, kept, hmark, hkept, hfront⟩ := h.rdropWhile_text_of_tail htail
  have hsegments : ∀ p ∈ segments, ∀ d ∈ p, StaysInPath d :=
    fun p hp => staysInPath_of_isSegment (h.segment p hp)
  have htext : origin.text.rdropWhile (· == '/') ++ '/' :: Text.join '/' pieces =
      origin.scheme ++ ':' :: '/' :: '/' :: (a.text ++ '/' ::
        (Text.join '/' segments ++ mark :: (kept ++ '/' :: Text.join '/' pieces))) := by
    rw [hfront, ← Text.mark_cons_join h.nonempty, Url.front]
    simp
  have hrest : ∀ d ∈ Text.join '/' segments ++ mark :: (kept ++ '/' :: Text.join '/' pieces),
      0x20 < d.toNat := by
    intro d hd
    simp only [List.mem_append, List.mem_cons] at hd
    rcases hd with hd | rfl | hd | rfl | hd
    · exact (staysInPath_of_mem_join hsegments d hd).visible
    · exact hkept d List.mem_cons_self
    · exact hkept d (List.mem_cons_of_mem _ hd)
    · decide
    · refine (staysInPath_of_mem_join (fun p hp e he => ?_) d hd).visible
      exact staysInPath_of_isPathChar (hpieces.chars p hp e he)
  -- The mark ends the path before the backend path is reached.
  have hpath : (Url.cutTail (Text.join '/' segments ++
      mark :: (kept ++ '/' :: Text.join '/' pieces))).path = Text.join '/' segments :=
    Url.path_cutTail_mark (fun d hd => (staysInPath_of_mem_join hsegments d hd).noMark) hmark _
  have hparse := Url.parse_append ((Url.isWeb_iff origin).mp h.web) h.canonical hrest
  rw [← htext, hpath,
    Url.readSegments_join h.nonempty fun s hs => (h.segment s hs).toStaysSegment,
    Url.map_encode_segments h.segment] at hparse
  rw [h.authority, h.path]
  exact ⟨_, target_of_parse hpieces h.web hparse timeout query⟩

/-! ## Targets of routes -/

theorem isPathChar_of_literal {c : Char} (h : Route.isLiteralChar c = true) :
    Target.isPathChar c = true := by
  have hlt : c.toNat < 128 := by
    rw [Route.isLiteralChar, Bool.or_eq_true, beq_iff_eq] at h
    rcases h with hlower | rfl
    · exact Text.lt_of_isLower hlower
    · decide
  exact Text.forall_ascii
    (P := fun c => Route.isLiteralChar c = true → Target.isPathChar c = true)
    (by decide +kernel) hlt h

/-- A backend path of the table can be put behind an origin. -/
theorem isPath_of_backendPath {route : Route} (hroute : route ∈ Route.table) {path u : Text}
    (hpath : ∀ c ∈ path, Target.isPathChar c = true) (hu : route.backendPath path = some u) :
    ∃ pieces, u = Text.join '/' pieces ∧ Text.split '/' u = pieces ∧ IsPath pieces := by
  obtain ⟨pieces, rfl, hne, hpieces⟩ := Route.pieces_of_backendPath hroute hu
  refine ⟨pieces, rfl, Text.split_join hne fun p hp => (hpieces p hp).stays.noSlash, ?_⟩
  exact {
    nonempty := hne
    piece := fun p hp => (hpieces p hp).nonempty
    stays := fun p hp => (hpieces p hp).stays
    chars := fun p hp c hc => by
      rcases (hpieces p hp).chars c hc with hmem | hliteral
      · exact hpath c hmem
      · exact isPathChar_of_literal hliteral }

theorem encode_join (pieces : List Text) :
    Percent.encode Percent.inPath (Text.join '/' pieces) =
      Text.join '/' (pieces.map (Percent.encode Percent.inPath)) := by
  induction pieces with
  | nil => rfl
  | cons piece rest ih =>
      cases rest with
      | nil => rfl
      | cons next more =>
          have hslash : Percent.encodeChar Percent.inPath '/' = ['/'] := rfl
          rw [Text.join_cons '/' piece (List.cons_ne_nil next more), Percent.encode_append,
            Percent.encode_cons, ih, hslash]
          rfl

/-- The text of a path below an origin. -/
theorem text_below (h : origin.IsCanonical a segments) {pieces : List Text} (hne : pieces ≠ []) :
    (UrlPath.segments (baseOf segments ++ pieces.map (Percent.encode Percent.inPath))).text =
      origin.path.text.rdropWhile (· == '/') ++
        '/' :: Percent.encode Percent.inPath (Text.join '/' pieces) := by
  rw [encode_join, Text.mark_cons_join (by simpa using hne), h.path]
  simp only [UrlPath.text]
  rw [h.rdropWhile_path, List.flatMap_append]

/-- **A backend path stays below its origin.** For an origin for HTTP without
query and fragment, every path that a route takes has a target. The target has
the scheme and the authority of the origin, and its path is the path of the
origin without slashes at its end, a slash, and the backend path with single
characters escaped. So its segments are those of the origin, and then those of
the backend path in the same order: none is resolved, parted or left out. -/
theorem target_stays_below_origin {text : Text} {origin : Url}
    (hparse : Url.parse text = .ok origin) (hweb : origin.isWeb = true)
    (hquery : origin.query = none) (hfragment : origin.fragment = none) (timeout : Duration)
    {route : Route} (hroute : route ∈ Route.table) {path : Text}
    (hpath : ∀ c ∈ path, Target.isPathChar c = true) {u : Text}
    (hu : route.backendPath path = some u) (query : Option Text) :
    ∃ url segments, (ofUrl origin timeout).target u query = .ok url ∧
      url.scheme = origin.scheme ∧ url.authority = origin.authority ∧
      url.path.text =
        origin.path.text.rdropWhile (· == '/') ++ '/' :: Percent.encode Percent.inPath u ∧
      origin.path = .segments segments ∧
      url.path = .segments (segments.rdropWhile List.isEmpty ++
        (Text.split '/' u).map (Percent.encode Percent.inPath)) ∧
      url.query = ownQuery query ∧ url.fragment = none := by
  obtain ⟨a, segments, h⟩ := Url.canonical_of_parse hparse hweb
  obtain ⟨pieces, rfl, hsplit, hpieces⟩ := isPath_of_backendPath hroute hpath hu
  refine ⟨_, segments, target_eq h hquery hfragment hpieces timeout query, rfl, rfl,
    text_below h hpieces.nonempty, h.path, ?_, rfl, rfl⟩
  rw [hsplit]
  rfl

/-- A job whose name starts with a dot, however it is spelt, stays one segment
below its origin, whose slashes at the end do not count. -/
theorem dotted_job_stays_below_origin :
    ∃ origin url, Url.parse "http://jobs:80/v1/../api//".toList = .ok origin ∧
      (ofUrl origin ⟨1000⟩).target "jobs/%2E.x".toList (some "a=1".toList) = .ok url ∧
      url.path.text = "/api/jobs/%2E.x".toList := by
  have hparse : (Url.parse "http://jobs:80/v1/../api//".toList).toOption =
      some ⟨"http".toList, some ⟨[], [], some (.domain "jobs".toList), none⟩,
        .segments ["api".toList, [], []], none, none⟩ := by decide +kernel
  obtain ⟨url, segments, htarget, -, -, htext, -⟩ :=
    target_stays_below_origin (Outcome.toOption_eq_some_iff.mp hparse) (by decide) rfl rfl ⟨1000⟩
      (by decide : Route.same "get_job" .get "jobs/\x7bjob_id\x7d" ∈ Route.table)
      (List.all_eq_true.mp (by decide : "/jobs/%2E.x".toList.all Target.isPathChar = true))
      (by decide +kernel : _ = some "jobs/%2E.x".toList) (some "a=1".toList)
  exact ⟨_, url, Outcome.toOption_eq_some_iff.mp hparse, htarget, htext⟩

end Backend

end JobsGateway
