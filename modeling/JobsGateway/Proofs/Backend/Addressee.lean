import JobsGateway.Proofs.Backend.Target
import JobsGateway.Proofs.Url.Prefix

/-!
# Who a request goes to

The text of the origin stands before whatever a request adds to it, and a slash
stands between them. So no path and no query changes the scheme of a target, and
none changes the authority of one for HTTP.
-/

namespace JobsGateway.Backend

variable {origin : Url} {a : Authority} {segments : List Text} {timeout : Duration}

/-- The text that a path is appended to begins like the origin, up to a slash. -/
theorem origin_append (h : origin.IsCanonical a segments) (timeout : Duration) (path : Text) :
    ∃ rest, (ofUrl origin timeout).origin ++ '/' :: path = origin.front a ++ '/' :: rest := by
  obtain ⟨first, others, hsegments⟩ := List.exists_cons_of_ne_nil h.nonempty
  have htext : ∃ more, origin.text = origin.front a ++ '/' :: more := by
    rw [h.text, hsegments]
    simp
  obtain ⟨more, hmore⟩ := htext
  have horigin : (ofUrl origin timeout).origin =
      origin.front a ++ ('/' :: more).rdropWhile (· == '/') := by
    show origin.text.rdropWhile (· == '/') = _
    rw [hmore, Text.rdropWhile_append_of_eq_self h.rdropWhile_front]
  rw [horigin]
  cases hkept : ('/' :: more).rdropWhile (· == '/') with
  | nil => exact ⟨path, by simp⟩
  | cons c kept =>
      have hprefix := List.rdropWhile_prefix (· == '/') ('/' :: more)
      rw [hkept] at hprefix
      obtain ⟨rfl, -⟩ := List.cons_prefix_cons.mp hprefix
      exact ⟨kept ++ '/' :: path, by simp⟩

/-- Whatever is appended to the text of the origin, it is read as a URL with the
scheme and the authority of the origin. -/
theorem exists_parse_append (h : origin.IsCanonical a segments) (timeout : Duration)
    (path : Text) :
    ∃ list tail, Url.parse ((ofUrl origin timeout).origin ++ '/' :: path) =
      .ok (Url.ofTail origin.scheme (some a) (.segments list) tail) := by
  obtain ⟨rest, hrest⟩ := origin_append h timeout path
  have htext : origin.front a ++ '/' :: rest =
      origin.scheme ++ ':' :: '/' :: '/' :: (a.text ++ '/' :: rest) := by
    simp [Url.front]
  rw [hrest, htext]
  exact Url.parse_front ((Url.isWeb_iff origin).mp h.web) h.canonical rest

theorem origin_scheme (origin : Url) (timeout : Duration) :
    ∃ rest, (ofUrl origin timeout).origin = origin.scheme ++ ':' :: rest := by
  obtain ⟨kept, -, hkept⟩ := Text.rdropWhile_append_cons (p := (· == '/')) (c := ':') rfl
    origin.scheme (origin.authorityText ++ origin.path.text ++ origin.queryText ++
      origin.fragmentText)
  refine ⟨kept, ?_⟩
  rw [← hkept]
  show origin.text.rdropWhile (· == '/') = _
  simp [Url.text]

/-- A target has the scheme and the authority of the text that it is read from. -/
theorem target_ok {b : Backend} {path : Text} {query : Option Text} {url : Url}
    (h : b.target path query = .ok url) :
    ∃ u, Url.parse (b.origin ++ '/' :: path.dropWhile (· == '/')) = .ok u ∧
      url.scheme = u.scheme ∧ url.authority = u.authority := by
  obtain ⟨u, hu, hurl⟩ := Outcome.bind_eq_ok_iff.mp h
  cases hurl
  exact ⟨u, hu, rfl, rfl⟩

/-- **No path changes the scheme.** -/
theorem scheme_target {text : Text} (hparse : Url.parse text = .ok origin) {path : Text}
    {query : Option Text} {url : Url} (h : (ofUrl origin timeout).target path query = .ok url) :
    url.scheme = origin.scheme := by
  obtain ⟨u, hu, hscheme, -⟩ := target_ok h
  obtain ⟨rest, hrest⟩ := origin_scheme origin timeout
  rw [hrest, List.append_assoc, List.cons_append] at hu
  rw [hscheme]
  exact Url.scheme_of_parse_append (Url.isScheme_of_parse hparse) hu

/-- **No path changes the host, the port number or the user** of an origin for
HTTP. -/
theorem authority_target {text : Text} (hparse : Url.parse text = .ok origin)
    (hweb : origin.isWeb = true) {path : Text} {query : Option Text} {url : Url}
    (h : (ofUrl origin timeout).target path query = .ok url) :
    url.authority = origin.authority := by
  obtain ⟨a, segments, hcanonical⟩ := Url.canonical_of_parse hparse hweb
  obtain ⟨u, hu, -, hauthority⟩ := target_ok h
  obtain ⟨list, tail, hread⟩ :=
    exists_parse_append hcanonical timeout (path.dropWhile (· == '/'))
  rw [hread] at hu
  cases hu
  rw [hauthority, hcanonical.authority]
  rfl

end JobsGateway.Backend
