import JobsGateway.Proofs.Backend.Target
import JobsGateway.Settings.Environment

/-!
# Origins from the settings

Every URL in settings that were loaded is one that was read from a text, be it
in the environment, in a file, or the standard one. So the origin of the backend
is canonical. Whether it can be used is decided by what follows its path: with a
query or a fragment all backend paths have one target path.
-/

namespace JobsGateway

/-! ## URLs in settings -/

/-- A URL that was read from some text. -/
def Url.WasRead (u : Url) : Prop :=
  ∃ text, Url.parse text = .ok u

/-- The URLs that a layer names were read. -/
structure Layer.UrlsRead (l : Layer) : Prop where
  backend : ∀ url, l.backendUrl = some url → url.WasRead
  identity : ∀ url, l.identityUrl = some url → url.WasRead

/-- Both URLs were read. -/
structure Settings.UrlsRead (s : Settings) : Prop where
  backend : s.backendUrl.WasRead
  identity : s.identityUrl.WasRead

theorem Layer.UrlsRead.onto {l : Layer} {s : Settings} (hl : l.UrlsRead) (hs : s.UrlsRead) :
    (l.onto s).UrlsRead where
  backend := by
    show (l.backendUrl.getD s.backendUrl).WasRead
    cases hurl : l.backendUrl with
    | none => exact hs.backend
    | some url => exact hl.backend url hurl
  identity := by
    show (l.identityUrl.getD s.identityUrl).WasRead
    cases hurl : l.identityUrl with
    | none => exact hs.identity
    | some url => exact hl.identity url hurl

theorem urlsRead_empty : Layer.empty.UrlsRead where
  backend := by rintro url ⟨⟩
  identity := by rintro url ⟨⟩

theorem urlsRead_standard : Settings.standard.UrlsRead where
  backend := by
    have h : (Url.parse "http://localhost:8000".toList).toOption =
        some Settings.standard.backendUrl := by decide +kernel
    exact ⟨_, Outcome.toOption_eq_some_iff.mp h⟩
  identity := by
    have h : (Url.parse "http://localhost:3000/api/v1/auths/".toList).toOption =
        some Settings.standard.identityUrl := by decide +kernel
    exact ⟨_, Outcome.toOption_eq_some_iff.mp h⟩

/-! ## Settings files -/

namespace SettingsFile

theorem wasRead_of_readUrl {node : Yaml.Node} {url : Url} (h : readUrl node = .ok url) :
    url.WasRead := by
  obtain ⟨text, -, h⟩ := Outcome.bind_eq_ok_iff.mp h
  exact ⟨text, Outcome.mapError_eq_ok_iff.mp h⟩

/-- Reading one value keeps the URLs of a layer read. -/
theorem urlsRead_of_readValue {layer result : Layer} {key : SettingsKey} {node : Yaml.Node}
    (h : readValue layer key node = .ok result) (hl : layer.UrlsRead) : result.UrlsRead := by
  cases key with
  | backendUrl =>
      obtain ⟨url, hurl, rfl⟩ := Outcome.map_eq_ok_iff.mp h
      exact { hl with backend := by rintro _ ⟨⟩; exact wasRead_of_readUrl hurl }
  | identityUrl =>
      obtain ⟨url, hurl, rfl⟩ := Outcome.map_eq_ok_iff.mp h
      exact { hl with identity := by rintro _ ⟨⟩; exact wasRead_of_readUrl hurl }
  | listen =>
      obtain ⟨text, -, rfl⟩ := Outcome.map_eq_ok_iff.mp h
      exact ⟨hl.backend, hl.identity⟩
  | timeout =>
      obtain ⟨n, -, rfl⟩ := Outcome.map_eq_ok_iff.mp h
      exact ⟨hl.backend, hl.identity⟩
  | maxBody =>
      obtain ⟨n, -, rfl⟩ := Outcome.map_eq_ok_iff.mp h
      exact ⟨hl.backend, hl.identity⟩

/-- Reading the entries of a mapping keeps the URLs of a layer read. -/
theorem urlsRead_of_readEntries {d : Yaml.Document} {start : Yaml.Mark} {layer result : Layer}
    {awaited : Awaited} {nodes : List Yaml.PlacedNode}
    (h : readEntries d start layer awaited nodes = .ok result) (hl : layer.UrlsRead) :
    result.UrlsRead := by
  -- Keys, unused nodes and ends leave the layer as it is; a value is read into it.
  induction nodes generalizing layer awaited with
  | nil => cases h
  | cons n rest ih =>
      cases awaited with
      | key =>
          rw [readEntries] at h
          split at h
          · cases h
            exact hl
          · split at h
            · cases h
            · exact ih h hl
      | value key place =>
          simp only [readEntries] at h
          split at h
          · cases h
          · rename_i hvalue
            exact ih h (urlsRead_of_readValue hvalue hl)
      | unused => exact ih h hl
      | closing depth => exact ih h hl

theorem urlsRead_of_readRoot {d : Yaml.Document} {result : Layer}
    (h : readRoot d = .ok result) : result.UrlsRead := by
  unfold readRoot at h
  split at h
  · cases h
  · split at h
    · exact urlsRead_of_readEntries h urlsRead_empty
    · cases h
      exact urlsRead_empty
    · split at h
      · cases h
        exact urlsRead_empty
      · cases h

theorem urlsRead_of_read {text : Text} {result : Layer} (h : read text = .ok result) :
    result.UrlsRead := by
  unfold read at h
  generalize Yaml.Document.ofText text = parsed at h
  obtain ⟨d, more⟩ := parsed
  obtain ⟨layer, hroot, h⟩ := Outcome.bind_eq_ok_iff.mp h
  have hlayer := urlsRead_of_readRoot hroot
  cases hfault : d.fault with
  | some fault =>
      simp only [hfault] at h
      cases h
  | none =>
      simp only [hfault] at h
      cases more with
      | true => cases h
      | false =>
          cases h
          exact hlayer

end SettingsFile

/-! ## The environment and the whole -/

theorem Environment.wasRead_of_url? {env : Environment} {v : Variable} {found : Option Url}
    (h : env.url? v = .ok found) {url : Url} (hurl : found = some url) : url.WasRead := by
  subst hurl
  unfold url? at h
  split at h
  · cases h
  · split at h
    · rename_i hparse
      cases h
      exact ⟨_, hparse⟩
    · cases h

theorem Environment.urlsRead_of_layer {env : Environment} {l : Layer} (h : env.layer = .ok l) :
    l.UrlsRead := by
  obtain ⟨backendUrl, hbackend, h⟩ := Outcome.bind_eq_ok_iff.mp h
  obtain ⟨timeout, -, h⟩ := Outcome.bind_eq_ok_iff.mp h
  obtain ⟨identityUrl, hidentity, h⟩ := Outcome.bind_eq_ok_iff.mp h
  obtain ⟨maxBody, -, h⟩ := Outcome.bind_eq_ok_iff.mp h
  cases h
  exact ⟨fun _ => wasRead_of_url? hbackend, fun _ => wasRead_of_url? hidentity⟩

namespace Settings

variable {env : Environment} {files : Files} {s : Settings}

theorem urlsRead_of_base (h : base env files = .ok s) : s.UrlsRead := by
  unfold base at h
  split at h
  · obtain ⟨text, -, h⟩ := Outcome.bind_eq_ok_iff.mp h
    obtain ⟨layer, hlayer, h⟩ := Outcome.bind_eq_ok_iff.mp h
    cases h
    exact (SettingsFile.urlsRead_of_read (Outcome.mapError_eq_ok_iff.mp hlayer)).onto
      urlsRead_standard
  · cases h
    exact urlsRead_standard

theorem check_ok {checked : Settings} (h : s.check = .ok checked) :
    checked = s ∧ s.backendUrl.isWeb = true ∧ s.identityUrl.isWeb = true ∧
      s.timeoutSeconds ≠ 0 := by
  unfold check at h
  split at h
  · cases h
  · split at h
    · cases h
    · split at h
      · cases h
      · rename_i hbackend hidentity htimeout
        cases h
        exact ⟨rfl, by simpa using hbackend, by simpa using hidentity, htimeout⟩

/-- What loads has URLs for HTTP that were read. -/
theorem urls_of_load (h : load env files = .ok s) :
    s.UrlsRead ∧ s.backendUrl.isWeb = true ∧ s.identityUrl.isWeb = true := by
  obtain ⟨below, hbase, h⟩ := Outcome.bind_eq_ok_iff.mp h
  obtain ⟨layer, hlayer, h⟩ := Outcome.bind_eq_ok_iff.mp h
  obtain ⟨rfl, hbackend, hidentity, -⟩ := check_ok h
  exact ⟨(Environment.urlsRead_of_layer hlayer).onto (urlsRead_of_base hbase), hbackend,
    hidentity⟩

end Settings

/-! ## Which origins can be used -/

namespace Backend

/-- A backend path that some request leads to. -/
def IsBackendPath (u : Text) : Prop :=
  ∃ route ∈ Route.table, ∃ path : Text, (∀ c ∈ path, Target.isPathChar c = true) ∧
    route.backendPath path = some u

/-- Every backend path has a target below the origin, with the query of the
request alone. -/
def TargetsBelow (b : Backend) (origin : Url) : Prop :=
  ∀ u, IsBackendPath u → ∀ query, ∃ url, b.target u query = .ok url ∧
    url.path.text =
      origin.path.text.rdropWhile (· == '/') ++ '/' :: Percent.encode Percent.inPath u ∧
    url.query = ownQuery query

/-- Different backend paths have different targets. -/
def TargetsApart (b : Backend) : Prop :=
  ∀ u u', IsBackendPath u → IsBackendPath u' →
    Percent.encode Percent.inPath u ≠ Percent.encode Percent.inPath u' →
    ∀ query query', b.target u query ≠ b.target u' query'

/-- An origin that can be used: every backend path has its own target below it. -/
structure KeepsPaths (b : Backend) (origin : Url) : Prop where
  below : b.TargetsBelow origin
  apart : b.TargetsApart

/-- An origin that cannot be used: every backend path has the path of the origin
as target. -/
def LosesPaths (b : Backend) (origin : Url) : Prop :=
  ∀ u, IsBackendPath u → ∀ query, ∃ url, b.target u query = .ok url ∧
    url.path = origin.path ∧ url.query = ownQuery query

variable {origin : Url} {a : Authority} {segments : List Text}

theorem IsBackendPath.pieces {u : Text} (h : IsBackendPath u) :
    ∃ pieces, u = Text.join '/' pieces ∧ IsPath pieces := by
  obtain ⟨route, hroute, path, hpath, hu⟩ := h
  obtain ⟨pieces, hjoin, -, hpieces⟩ := isPath_of_backendPath hroute hpath hu
  exact ⟨pieces, hjoin, hpieces⟩

theorem TargetsBelow.apart {b : Backend} (h : b.TargetsBelow origin) : b.TargetsApart := by
  intro u u' hu hu' hne query query' heq
  obtain ⟨url, htarget, htext, -⟩ := h u hu query
  obtain ⟨url', htarget', htext', -⟩ := h u' hu' query'
  rw [htarget, htarget'] at heq
  obtain rfl := Except.ok.inj heq
  exact hne (List.cons.inj (List.append_cancel_left (htext.symm.trans htext'))).2

theorem keepsPaths_of_canonical (h : origin.IsCanonical a segments)
    (hquery : origin.query = none) (hfragment : origin.fragment = none) (timeout : Duration) :
    (ofUrl origin timeout).KeepsPaths origin := by
  have hbelow : (ofUrl origin timeout).TargetsBelow origin := by
    intro u hu query
    obtain ⟨pieces, rfl, hpieces⟩ := hu.pieces
    exact ⟨_, target_eq h hquery hfragment hpieces timeout query,
      text_below h hpieces.nonempty, rfl⟩
  exact ⟨hbelow, hbelow.apart⟩

theorem losesPaths_of_tail (h : origin.IsCanonical a segments)
    (htail : origin.query ≠ none ∨ origin.fragment ≠ none) (timeout : Duration) :
    (ofUrl origin timeout).LosesPaths origin := by
  intro u hu query
  obtain ⟨pieces, rfl, hpieces⟩ := hu.pieces
  obtain ⟨fragment, htarget⟩ := target_of_tail h htail hpieces timeout query
  exact ⟨_, htarget, rfl, rfl⟩

/-- What is lost is not kept: the path of the list of jobs is below no origin. -/
theorem LosesPaths.not_keepsPaths {b : Backend} (h : b.LosesPaths origin) :
    ¬ b.KeepsPaths origin := by
  intro hkeeps
  have hu : IsBackendPath "jobs".toList :=
    ⟨Route.same "list_jobs" .get "jobs", by decide, "/jobs".toList,
      List.all_eq_true.mp (by decide), by decide +kernel⟩
  obtain ⟨url, htarget, hsame, -⟩ := h _ hu none
  obtain ⟨url', htarget', htext, -⟩ := hkeeps.below _ hu none
  rw [htarget] at htarget'
  obtain rfl := Except.ok.inj htarget'
  rw [hsame] at htext
  -- Without the slashes at its end, one path would have to be longer than itself.
  have htrimmed := congrArg (List.rdropWhile (· == '/')) htext
  have hjobs : ('/' :: Percent.encode Percent.inPath "jobs".toList).rdropWhile (· == '/') =
      "/jobs".toList := by decide
  rw [Text.rdropWhile_append _ (by rw [hjobs]; decide), hjobs] at htrimmed
  have hlength := congrArg List.length htrimmed
  simp at hlength

end Backend

namespace Settings

variable {env : Environment} {files : Files} {s : Settings}

theorem canonical_of_load (h : load env files = .ok s) :
    ∃ a segments, s.backendUrl.IsCanonical a segments := by
  obtain ⟨hread, hweb, -⟩ := urls_of_load h
  obtain ⟨text, hparse⟩ := hread.backend
  exact Url.canonical_of_parse hparse hweb

/-- **Which settings can be used.** Settings that load have a backend whose
targets are all right exactly if its URL has neither a query nor a fragment. If
it has one of them, every backend path is lost, and all requests with one query
go to one place. -/
theorem load_keepsPaths_iff (h : load env files = .ok s) :
    ((Backend.ofUrl s.backendUrl s.timeout).KeepsPaths s.backendUrl ↔
      s.backendUrl.query = none ∧ s.backendUrl.fragment = none) ∧
    (¬ (s.backendUrl.query = none ∧ s.backendUrl.fragment = none) →
      (Backend.ofUrl s.backendUrl s.timeout).LosesPaths s.backendUrl) := by
  obtain ⟨a, segments, hcanonical⟩ := canonical_of_load h
  have hloses : ¬ (s.backendUrl.query = none ∧ s.backendUrl.fragment = none) →
      (Backend.ofUrl s.backendUrl s.timeout).LosesPaths s.backendUrl := by
    intro htail
    refine Backend.losesPaths_of_tail hcanonical ?_ s.timeout
    by_cases hquery : s.backendUrl.query = none
    · exact Or.inr fun hfragment => htail ⟨hquery, hfragment⟩
    · exact Or.inl hquery
  refine ⟨⟨fun hkeeps => ?_, fun hplain => ?_⟩, hloses⟩
  · by_cases htail : s.backendUrl.query = none ∧ s.backendUrl.fragment = none
    · exact htail
    · exact absurd hkeeps (hloses htail).not_keepsPaths
  · exact Backend.keepsPaths_of_canonical hcanonical hplain.1 hplain.2 s.timeout

/-- An environment that names the backend, and nothing else. -/
def onlyBackend (value : String) : Environment
  | .backendUrl => some value.toList
  | _ => none

/-- A backend below a folder keeps all paths. -/
theorem folder_keeps_paths :
    ∃ s, load (onlyBackend " http://jobs/api/ ") (fun _ => .error .missing) = .ok s ∧
      (Backend.ofUrl s.backendUrl s.timeout).KeepsPaths s.backendUrl := by
  have hload : ((load (onlyBackend " http://jobs/api/ ") fun _ => .error .missing).toOption.any
      fun s => s.backendUrl.query = none && s.backendUrl.fragment = none) = true := by
    decide +kernel
  obtain ⟨s, hs, hplain⟩ := (Option.any_eq_true ..).mp hload
  rw [Outcome.toOption_eq_some_iff] at hs
  rw [Bool.and_eq_true, decide_eq_true_eq, decide_eq_true_eq] at hplain
  exact ⟨s, hs, (load_keepsPaths_iff hs).1.mpr hplain⟩

/-- A backend with a query is accepted, and loses all paths. -/
theorem versioned_backend_loses_paths :
    ¬ ∀ (env : Environment) (files : Files) (s : Settings), load env files = .ok s →
      (Backend.ofUrl s.backendUrl s.timeout).KeepsPaths s.backendUrl := by
  intro hall
  have hload : ((load (onlyBackend "http://jobs/api?v=1") fun _ => .error .missing).toOption.any
      fun s => s.backendUrl.query.isSome) = true := by decide +kernel
  obtain ⟨s, hs, hquery⟩ := (Option.any_eq_true ..).mp hload
  rw [Outcome.toOption_eq_some_iff] at hs
  obtain ⟨a, segments, hcanonical⟩ := canonical_of_load hs
  have htail : s.backendUrl.query ≠ none := fun hnone => by simp [hnone] at hquery
  exact (Backend.losesPaths_of_tail hcanonical (Or.inl htail) s.timeout).not_keepsPaths
    (hall _ _ s hs)

end Settings

end JobsGateway
