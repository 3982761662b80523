import JobsGateway.Proofs.Backend.Addressee
import JobsGateway.Proofs.Gateway.Exchange
import JobsGateway.Proofs.Url.Query

/-!
# Queries on their way to the backend

The query of a request is put into a URL that was read from the origin and a
path. Whatever stood in its place is gone then, so the path has no say in what
becomes of the query. The backend reads it behind the first question mark of its
target, since no path that was read from a text has one.
-/

namespace JobsGateway

namespace Query

/-- A query has become another one that says the same. -/
structure Survives (query crossed : Text) : Prop where
  octets : Utf8.encode crossed = cross (Utf8.encode query)
  decoded : Percent.decode (Utf8.encode crossed) = Percent.decode (Utf8.encode query)
  parameters : (parameters (Utf8.encode crossed)).map (·.map Percent.decode) =
    (parameters (Utf8.encode query)).map (·.map Percent.decode)
  settled : cross (Utf8.encode crossed) = Utf8.encode crossed

/-- What becomes of a query: it survives, unless it is empty, and then there is
none. -/
def Becomes : Option Text → Option Text → Prop
  | some (c :: rest), crossed => ∃ query, crossed = some query ∧ Survives (c :: rest) query
  | _, crossed => crossed = none

theorem survives_encode {query : Text} (h : ∀ c ∈ query, Target.isQueryChar c = true) :
    Survives query (Percent.encode Percent.inSpecialQuery query) where
  octets := encode_encode h
  decoded := by rw [encode_encode h, decode_cross]
  parameters := by rw [encode_encode h, decoded_parameters_cross]
  settled := by rw [encode_encode h, cross_cross]

theorem visible_of_isQueryChar {c : Char} (h : Target.isQueryChar c = true) : 0x20 < c.toNat :=
  of_decide_eq_true (Bool.and_eq_true_iff.mp h).1

/-- No character of a query is dropped when it is put into a URL. -/
theorem ownQuery_cons {c : Char} {rest : Text}
    (h : ∀ d ∈ c :: rest, Target.isQueryChar d = true) :
    Backend.ownQuery (some (c :: rest)) =
      some (Percent.encode Percent.inSpecialQuery (c :: rest)) := by
  have hall : (c :: rest).filter (fun d => !Url.isTabOrBreak d) = c :: rest := by
    refine List.filter_eq_self.mpr fun d hd => ?_
    rw [Url.isTabOrBreak_of_visible (visible_of_isQueryChar (h d hd))]
    rfl
  show some (Percent.encode _ ((c :: rest).filter _)) = _
  rw [hall]

theorem becomes_ownQuery {query : Option Text}
    (h : ∀ q, query = some q → ∀ c ∈ q, Target.isQueryChar c = true) :
    Becomes query (Backend.ownQuery query) := by
  match query with
  | none => rfl
  | some [] => rfl
  | some (c :: rest) =>
      have hchars := h (c :: rest) rfl
      exact ⟨_, ownQuery_cons hchars, survives_encode hchars⟩

/-- The query in a URL has no number sign, so nothing of it is a fragment. -/
theorem notMem_ownQuery {query : Option Text} {own : Text}
    (h : Backend.ownQuery query = some own) : '#' ∉ own := by
  obtain ⟨q, -, rfl⟩ := Option.map_eq_some_iff.mp h
  intro hmem
  have hset := Percent.not_set_of_mem_encode Percent.sparesEscapes_inSpecialQuery hmem
  revert hset
  decide

end Query

namespace Backend

variable {text : Text} {origin : Url}

/-- **Every path has a target, and the query of the target is that of the request
alone.** -/
theorem exists_target (hparse : Url.parse text = .ok origin) (hweb : origin.isWeb = true)
    (timeout : Duration) (path : Text) (query : Option Text) :
    ∃ url segments, (ofUrl origin timeout).target path query = .ok url ∧
      url.path = .segments segments ∧ segments ≠ [] ∧ (∀ s ∈ segments, Url.IsSegment s) ∧
      url.query = ownQuery query := by
  obtain ⟨a, own, hcanonical⟩ := Url.canonical_of_parse hparse hweb
  have hscheme := (Url.isWeb_iff origin).mp hweb
  obtain ⟨list, tail, hfront⟩ :=
    exists_parse_append hcanonical timeout (path.dropWhile (· == '/'))
  obtain ⟨b, segments, hread⟩ :=
    Url.canonical_of_parse hfront ((Url.isWeb_iff _).mpr hscheme)
  obtain rfl : list = segments := UrlPath.segments.inj hread.path
  have htarget : (ofUrl origin timeout).target path query =
      .ok ((Url.ofTail origin.scheme (some a) (.segments list) tail).withQuery
        (query.filter (· != []))) := by
    unfold target
    rw [hfront]
    rfl
  rw [withQuery_ofTail hscheme] at htarget
  exact ⟨_, list, htarget, rfl, hread.nonempty, hread.segment, rfl⟩

end Backend

namespace Target

/-- A target that is written from a URL is read with the query of the URL. -/
theorem query_read {segments : List Text} (hne : segments ≠ [])
    (hsegments : ∀ s ∈ segments, Url.IsSegment s) {url : Url}
    (hpath : url.path = .segments segments) (hquery : ∀ q, url.query = some q → '#' ∉ q) :
    (Target.read (url.path.text ++ url.queryText)).query = url.query := by
  have hplain : ∀ c ∈ url.path.text, c ≠ '?' ∧ c ≠ '#' := by
    intro c hc
    rw [hpath] at hc
    obtain ⟨s, hs, hc⟩ := List.mem_flatMap.mp hc
    rcases List.mem_cons.mp hc with rfl | hc
    · decide
    · exact (Backend.staysInPath_of_isSegment (hsegments s hs) c hc).noMark
  have hnumber : ∀ c ∈ url.path.text ++ url.queryText, (c != '#') = true := by
    intro c hc
    rw [bne_iff_ne]
    rcases List.mem_append.mp hc with hc | hc
    · exact (hplain c hc).2
    · unfold Url.queryText at hc
      split at hc
      · rename_i q hq
        rcases List.mem_cons.mp hc with rfl | hc
        · decide
        · rintro rfl
          exact hquery q hq hc
      · cases hc
  obtain ⟨first, others, hsplit⟩ := List.exists_cons_of_ne_nil hne
  obtain ⟨more, hmore⟩ : ∃ more, url.path.text ++ url.queryText = '/' :: more :=
    ⟨_, by rw [hpath, hsplit]; rfl⟩
  have hread : Target.read (url.path.text ++ url.queryText) =
      ofPathAndQuery (url.path.text ++ url.queryText) := by
    unfold Target.read
    rw [List.takeWhile_eq_self_iff.mpr hnumber, hmore]
    rfl
  have hpathChars : ∀ c ∈ url.path.text, (c != '?') = true :=
    fun c hc => bne_iff_ne.mpr (hplain c hc).1
  rw [hread, ofPathAndQuery, query]
  unfold Url.queryText
  cases url.query with
  | none => simp [List.dropWhile_eq_nil_iff.mpr hpathChars]
  | some q => simp [Text.dropWhile_append_mark hpathChars]

end Target

namespace Gateway

variable {text : Text} {origin : Url}

/-- **Queries cross.** For an origin for HTTP, every path has a target. If the
request has no query, or an empty one, then neither has the target. Otherwise the
octets of the query are those of the request, each for itself: apostrophes and
octets from 0x7F on are escaped, and all others are left as they are. So the query
decodes to the same octets, it has the same parameters in the same order with the
same names and values, and it would cross again as it is. The backend reads this
query in every request that gets to it. -/
theorem query_crosses (hparse : Url.parse text = .ok origin) (hweb : origin.isWeb = true)
    (timeout : Duration) {query : Option Text}
    (hquery : ∀ q, query = some q → ∀ c ∈ q, Target.isQueryChar c = true) :
    (∀ path, ∃ url, (Backend.ofUrl origin timeout).target path query = .ok url ∧
      Query.Becomes query url.query) ∧
    ∀ (g : Gateway) (request : Request), g.backend = Backend.ofUrl origin timeout →
      request.target.query = query → ∀ d ∈ (g.handle request).journal.backendRequests,
        Query.Becomes query (Target.read d.target).query := by
  constructor
  · intro path
    obtain ⟨url, segments, htarget, -, -, -, hown⟩ :=
      Backend.exists_target hparse hweb timeout path query
    exact ⟨url, htarget, hown ▸ Query.becomes_ownQuery hquery⟩
  · intro g request hbackend hrequest d hd
    obtain ⟨out, hout, -, rfl⟩ := mem_backendRequests_handle.mp hd
    obtain ⟨route, caller, path, inbound, hadmits⟩ := (outgoing?_eq_some_iff ..).mp hout
    obtain ⟨url, fields, htarget, -, -, hconveys⟩ := hadmits.conveys
    obtain ⟨url', segments, htarget', hpath, hne, hsegments, hown⟩ :=
      Backend.exists_target hparse hweb timeout path query
    rw [hbackend, hrequest, htarget'] at htarget
    obtain rfl := Except.ok.inj htarget
    have hnumber : ∀ q, url'.query = some q → '#' ∉ q :=
      fun q hq => Query.notMem_ownQuery (hown ▸ hq)
    rw [hconveys.target, Target.query_read hne hsegments hpath hnumber, hown]
    exact Query.becomes_ownQuery hquery

/-- Of a query with everything in it that could go wrong, only the apostrophe and
the letter outside ASCII are escaped. -/
theorem odd_query_crosses :
    ∃ origin url query, Url.parse "http://jobs/v1?old".toList = .ok origin ∧
      (Backend.ofUrl origin ⟨1000⟩).target "jobs".toList
        (some "a=o'b&a=&flag&%27=é&x=%2527+|".toList) = .ok url ∧
      url.query = some query ∧
      Utf8.encode query = octets "a=o%27b&a=&flag&%27=%C3%A9&x=%2527+|" := by
  have hread : (Url.parse "http://jobs/v1?old".toList).toOption.any Url.isWeb = true := by
    decide +kernel
  obtain ⟨origin, horigin, hweb⟩ := (Option.any_eq_true ..).mp hread
  have hparse := Outcome.toOption_eq_some_iff.mp horigin
  have hchars : ∀ q, some "a=o'b&a=&flag&%27=é&x=%2527+|".toList = some q →
      ∀ c ∈ q, Target.isQueryChar c = true := by
    rintro q ⟨⟩
    exact List.all_eq_true.mp (by decide)
  obtain ⟨url, htarget, query, hquery, hsurvives⟩ :=
    (query_crosses hparse hweb ⟨1000⟩ hchars).1 "jobs".toList
  refine ⟨origin, url, query, hparse, htarget, hquery, ?_⟩
  rw [hsurvives.octets]
  decide +kernel

end Gateway

end JobsGateway
