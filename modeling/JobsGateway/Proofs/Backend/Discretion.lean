import JobsGateway.Backend.Call
import JobsGateway.Proofs.Client.Discretion
import JobsGateway.Proofs.Gateway.Exchange

/-!
# The user of the origin stays with the client

The target of a request is put together from the text of the origin, user and
password included, and read anew. It is found with them as without, and then the
client takes them out. So a call to an origin with a user looks like one to the
origin without, as long as the user can be taken out.
-/

namespace JobsGateway

/-! ## The origin with its user and without -/

namespace Url

/-- What a URL is written with after its authority. -/
def afterAuthority (u : Url) : Text :=
  u.path.text ++ u.queryText ++ u.fragmentText

/-- Where something follows the authority, it begins with a mark. -/
theorem afterAuthority_start {u : Url} {list : List Text} (hpath : u.path = .segments list) :
    u.afterAuthority = [] ∨ ∃ mark rest, u.afterAuthority = mark :: rest ∧
      (mark = '/' ∨ mark = '?' ∨ mark = '#') := by
  unfold afterAuthority
  rw [hpath]
  cases list with
  | cons first others => exact Or.inr ⟨'/', _, rfl, Or.inl rfl⟩
  | nil =>
      unfold queryText fragmentText
      cases u.query with
      | some q => exact Or.inr ⟨'?', _, rfl, Or.inr (Or.inl rfl)⟩
      | none =>
          cases u.fragment with
          | some f => exact Or.inr ⟨'#', _, rfl, Or.inr (Or.inr rfl)⟩
          | none => exact Or.inl rfl

end Url

namespace Backend

variable {u : Url} {a : Authority} {timeout : Duration}

open Url (IsHosted)

/-- The slashes that an origin loses are not those before its authority. -/
theorem origin_of_isHosted (h : u.IsHosted a) (timeout : Duration) :
    (ofUrl u timeout).origin =
      u.scheme ++ ':' :: '/' :: '/' :: (a.text ++ u.afterAuthority.rdropWhile (· == '/')) := by
  have hne : a.text ≠ [] := by
    obtain ⟨⟨c, rest, hstart, -⟩, -⟩ := h.hostText
    unfold Authority.text
    rw [hstart]
    simp
  have hself : a.text.rdropWhile (· == '/') = a.text := by
    rw [List.rdropWhile_eq_self_iff]
    intro hne hlast
    have hmem := List.getLast_mem hne
    rw [beq_iff_eq.mp hlast] at hmem
    exact absurd (h.text _ hmem) (by decide)
  have htext : u.text = (u.scheme ++ [':', '/', '/']) ++ a.text ++ u.afterAuthority := by
    simp [Url.text, Url.authorityText, h.authority, Url.afterAuthority]
  have hfront : ((u.scheme ++ [':', '/', '/']) ++ a.text).rdropWhile (· == '/') =
      (u.scheme ++ [':', '/', '/']) ++ a.text := by
    rw [Text.rdropWhile_append _ (by rw [hself]; exact hne), hself]
  show u.text.rdropWhile (· == '/') = _
  rw [htext, Text.rdropWhile_append_of_eq_self hfront]
  simp

/-- What a path is appended to goes on after the authority with a mark. -/
theorem exists_mark (h : u.IsHosted a) (path : Text) :
    ∃ mark rest, u.afterAuthority.rdropWhile (· == '/') ++ '/' :: path = mark :: rest ∧
      (mark = '/' ∨ mark = '?' ∨ mark = '#') := by
  obtain ⟨list, hpath⟩ := h.path
  cases hkept : u.afterAuthority.rdropWhile (· == '/') with
  | nil => exact ⟨'/', path, rfl, Or.inl rfl⟩
  | cons c kept =>
      have hprefix := List.rdropWhile_prefix (· == '/') u.afterAuthority
      rw [hkept] at hprefix
      rcases Url.afterAuthority_start hpath with hnil | ⟨mark, rest, hstart, hmark⟩
      · rw [hnil] at hprefix
        cases List.prefix_nil.mp hprefix
      · rw [hstart] at hprefix
        obtain ⟨rfl, -⟩ := List.cons_prefix_cons.mp hprefix
        exact ⟨c, kept ++ '/' :: path, rfl, hmark⟩

theorem target_eq_map (b : Backend) (path : Text) (query : Option Text) :
    b.target path query =
      (Url.parse (b.origin ++ '/' :: path.dropWhile (· == '/'))).map fun v =>
        v.withQuery (query.filter (· != [])) := by
  unfold target
  cases Url.parse (b.origin ++ '/' :: path.dropWhile (· == '/')) <;> rfl

/-- The text that a target is read from, where it goes on with a mark. -/
theorem origin_append_of_isHosted (h : u.IsHosted a) (timeout : Duration) {path rest : Text}
    {mark : Char}
    (hrest : u.afterAuthority.rdropWhile (· == '/') ++ '/' :: path = mark :: rest) :
    (ofUrl u timeout).origin ++ '/' :: path =
      u.scheme ++ ':' :: '/' :: '/' :: (a.text ++ mark :: rest) := by
  rw [origin_of_isHosted h, ← hrest]
  simp

/-- **A target is found with the user of the origin as without.** -/
theorem target_of_isHosted (h : u.IsHosted a) (timeout : Duration) (path : Text)
    (query : Option Text) :
    ∃ found : Except UrlError Url,
      (ofUrl u timeout).target path query =
        found.map (fun v => v.withUserinfo a.username a.password) ∧
      (ofUrl u.withoutUserinfo timeout).target path query = found.map Url.withoutUserinfo := by
  obtain ⟨mark, rest, hrest, hmark⟩ := exists_mark h (path.dropWhile (· == '/'))
  refine ⟨(Url.parse (u.scheme ++ ':' :: '/' :: '/' :: (a.hostText ++ mark :: rest))).map
    fun v => v.withQuery (query.filter (· != [])), ?_, ?_⟩
  · rw [target_eq_map, origin_append_of_isHosted h timeout hrest, h.parse_text hmark]
    cases Url.parse (u.scheme ++ ':' :: '/' :: '/' :: (a.hostText ++ mark :: rest)) <;> rfl
  · rw [target_eq_map, origin_append_of_isHosted h.withoutUserinfo timeout hrest]
    have hparse := h.withoutUserinfo.parse_text hmark rest
    rw [hparse]
    show Except.map _ (Except.map _
      (Url.parse (u.scheme ++ ':' :: '/' :: '/' :: (a.hostText ++ mark :: rest)))) = _
    cases Url.parse (u.scheme ++ ':' :: '/' :: '/' :: (a.hostText ++ mark :: rest)) <;> rfl

/-- A target has no user without a host. -/
theorem withoutUserinfo_of_target {b : Backend} {path : Text} {query : Option Text} {v : Url}
    (h : b.target path query = .ok v) (hhost : v.host? = none) : v.withoutUserinfo = v := by
  rw [target_eq_map] at h
  obtain ⟨read, hread, rfl⟩ := Outcome.map_eq_ok_iff.mp h
  exact congrArg (Url.withQuery · (query.filter (· != [])))
    (Url.withoutUserinfo_of_no_host hread hhost)

/-- The user of a discreet URL is discreet in any other. -/
theorem isDiscreet_withUserinfo (hd : u.IsDiscreet) (ha : u.authority = some a) (v : Url) :
    (v.withUserinfo a.username a.password).IsDiscreet := by
  intro b hb
  obtain ⟨c, -, rfl⟩ := Option.map_eq_some_iff.mp hb
  exact hd a ha

/-- **A request goes to the same address, with the user of the origin and
without.** -/
theorem sameAddress_build {text : Text} (hread : Url.parse text = .ok u) (hd : u.IsDiscreet)
    (timeout : Duration) (inbound : Inbound) (path method : Text) (caller : Option Caller) :
    Outgoing.SameAddress ((ofUrl u timeout).build inbound path method caller)
      ((ofUrl u.withoutUserinfo timeout).build inbound path method caller) := by
  by_cases huser : u.withoutUserinfo = u
  · rw [huser]
    exact Outgoing.SameAddress.refl _
  · obtain ⟨a, ha⟩ := Url.isHosted_of_parse hread huser
    obtain ⟨found, htarget, htarget'⟩ := target_of_isHosted ha timeout path inbound.query
    unfold build
    rw [htarget, htarget']
    cases found with
    | error e => exact Outgoing.SameAddress.refl _
    | ok v =>
        have hhost := withoutUserinfo_of_target htarget
        cases Crossing.outbound inbound.fields caller with
        | error f => exact Outgoing.SameAddress.refl _
        | ok fields =>
            have hsame := (Outgoing.sameAddress_build (isDiscreet_withUserinfo hd ha.authority v)
              hhost method fields fields
              (if Method.carriesBody method then some inbound.body else none)
              (if Method.carriesBody method then some inbound.body else none)).mapError
                fun url => Failure.ofClient (.notAllowed url)
            rw [Url.withoutUserinfo_withUserinfo] at hsame
            exact hsame

end Backend

/-! ## Calls that look alike -/

/-- Two runs that neither their result nor the log tells apart. -/
structure Run.Indistinct {α : Type} (run run' : Run α) : Prop where
  result : run.result = run'.result
  events : run.journal.events = run'.journal.events

namespace Run.Indistinct

variable {α : Type} {run run' run'' : Run α}

theorem refl (run : Run α) : Indistinct run run := ⟨rfl, rfl⟩

theorem symm (h : Indistinct run run') : Indistinct run' run := ⟨h.result.symm, h.events.symm⟩

theorem trans (h : Indistinct run run') (h' : Indistinct run' run'') : Indistinct run run'' :=
  ⟨h.result.trans h'.result, h.events.trans h'.events⟩

end Run.Indistinct

namespace Backend

variable {u : Url} {a : Authority} {timeout : Duration}

/-- How the event of a request ends depends on what comes of it. -/
theorem exchange_eq (b : Backend) (network : Network) (r : Outgoing) :
    (b.exchange network r).result =
        (((r.send network).outcome.bind Reply.whole).map relay).mapError Failure.ofClient ∧
      (b.exchange network r).journal.events =
        [match (r.send network).outcome.bind Reply.whole with
          | .ok reply => responded r reply.status
          | .error e => b.failed r (.ofClient e)] := by
  have hsent := Journal.events_map_backendRequest (r.send network).received.toList
  unfold exchange
  cases hreply : (r.send network).outcome.bind Reply.whole with
  | error e =>
      simp only [hreply, Journal.events_append, hsent]
      exact ⟨rfl, rfl⟩
  | ok reply =>
      simp only [hreply, Journal.events_append, hsent]
      exact ⟨rfl, rfl⟩

theorem responded_congr {r r' : Outgoing} (hmethod : r.method = r'.method)
    (hurl : r.url = r'.url) (status : Status) : responded r status = responded r' status := by
  unfold responded
  rw [hmethod, hurl]

theorem failed_congr {r r' : Outgoing} (hmethod : r.method = r'.method) (hurl : r.url = r'.url)
    (b : Backend) (f : Failure) : b.failed r f = b.failed r' f := by
  cases f <;> simp only [failed, hmethod, hurl]

theorem forwarding_congr {r r' : Outgoing} (hmethod : r.method = r'.method)
    (hurl : r.url = r'.url) (caller : Option Caller) :
    forwarding r caller = forwarding r' caller := by
  unfold forwarding
  rw [hmethod, hurl]

/-- What comes of a request, and what is logged about it, depends on its
address. -/
theorem indistinct_exchange {r r' : Outgoing} (hmethod : r.method = r'.method)
    (hurl : r.url = r'.url) (b b' : Backend) (htimeout : b.timeout = b'.timeout)
    (network : Network) : Run.Indistinct (b.exchange network r) (b'.exchange network r') := by
  obtain ⟨hresult, hevents⟩ := exchange_eq b network r
  obtain ⟨hresult', hevents'⟩ := exchange_eq b' network r'
  have houtcome := Outgoing.outcome_send_congr hmethod hurl network
  constructor
  · rw [hresult, hresult', houtcome]
  · rw [hevents, hevents', houtcome]
    cases (r'.send network).outcome.bind Reply.whole with
    | ok reply => exact congrArg (fun e => [e]) (responded_congr hmethod hurl reply.status)
    | error e =>
        have htext : b'.failed r' (.ofClient e) = b.failed r' (.ofClient e) := by
          cases e <;> simp only [Failure.ofClient, failed, htimeout]
        exact congrArg (fun e => [e]) ((failed_congr hmethod hurl b _).trans htext.symm)

/-- **A call to an origin with a user looks like one to the origin without.** -/
theorem indistinct_forward {text : Text} (hread : Url.parse text = .ok u) (hd : u.IsDiscreet)
    (timeout : Duration) (network : Network) (inbound : Inbound) (path method : Text)
    (caller : Option Caller) :
    Run.Indistinct ((ofUrl u timeout).forward network inbound path method caller)
      ((ofUrl u.withoutUserinfo timeout).forward network inbound path method caller) := by
  unfold forward
  rcases (sameAddress_build hread hd timeout inbound path method caller).cases with
    ⟨f, hbuild, hbuild'⟩ | ⟨r, r', hbuild, hbuild', hmethod, hurl⟩
  · rw [hbuild, hbuild']
    exact ⟨rfl, rfl⟩
  · rw [hbuild, hbuild']
    have hexchange := indistinct_exchange hmethod hurl (ofUrl u timeout)
      (ofUrl u.withoutUserinfo timeout) rfl network
    refine ⟨hexchange.result, ?_⟩
    show forwarding r caller :: Journal.events _ = forwarding r' caller :: Journal.events _
    rw [forwarding_congr hmethod hurl]
    exact congrArg (forwarding r' caller :: ·) hexchange.events

/-! ## Users that are shown -/

/-- A user that cannot be taken out of the origin stays in the URL of the
request, which is made all the same. -/
theorem exists_build_of_no_userinfo (ha : u.IsHosted a) (hinfo : u.userinfo? = none)
    {inbound : Inbound} {path method : Text} {caller : Option Caller} {r : Outgoing}
    (hbuild : (ofUrl u.withoutUserinfo timeout).build inbound path method caller = .ok r) :
    ∃ (v : Url) (b : Authority) (shown : Outgoing),
      v.authority = some b ∧ r.url = v.withoutUserinfo ∧
        (ofUrl u timeout).build inbound path method caller = .ok shown ∧
          shown.url = v.withUserinfo a.username a.password := by
  obtain ⟨found, htarget, htarget'⟩ := target_of_isHosted ha timeout path inbound.query
  obtain ⟨url, fields, hurl, hfields, hout⟩ := build_eq_ok hbuild
  rw [htarget'] at hurl
  obtain ⟨v, rfl, rfl⟩ := Outcome.map_eq_ok_iff.mp hurl
  have hhost := Outgoing.host_of_build hout
  rw [Url.host?_withoutUserinfo] at hhost
  obtain ⟨b, hb⟩ : ∃ b, v.authority = some b := by
    cases hv : v.authority with
    | none =>
        unfold Url.host? at hhost
        rw [hv] at hhost
        cases hhost
    | some b => exact ⟨b, rfl⟩
  have hauthority : (v.withUserinfo a.username a.password).authority =
      some ⟨a.username, a.password, b.host, b.portNumber⟩ := by
    unfold Url.withUserinfo
    rw [hb]
    rfl
  -- Whether a user is taken out depends on the user alone.
  have hshown : (v.withUserinfo a.username a.password).userinfo? = none := by
    rw [Url.userinfo?_eq_none_iff hauthority]
    exact (Url.userinfo?_eq_none_iff ha.authority).mp hinfo
  rw [← v.host?_withoutUserinfo, ← v.withoutUserinfo_withUserinfo a.username a.password,
    Url.host?_withoutUserinfo] at hhost
  have hurl := Outgoing.url_of_build hout v.isDiscreet_withoutUserinfo
  rw [Url.withoutUserinfo_withoutUserinfo] at hurl
  refine ⟨v, b, ⟨method, v.withUserinfo a.username a.password, fields,
    if Method.carriesBody method then some inbound.body else none⟩, hb, hurl, ?_, rfl⟩
  unfold build
  rw [htarget, hfields]
  show (Outgoing.build method (v.withUserinfo a.username a.password) fields _).mapError _ = _
  rw [Outgoing.build_of_no_userinfo hhost hshown]
  rfl

/-- **A user that cannot be taken out is logged.** Wherever a request can be
made, a call looks as it does without a user only if the URL is discreet. -/
theorem isDiscreet_of_indistinct_forward {text : Text} (hread : Url.parse text = .ok u)
    {network : Network} {inbound : Inbound} {path method : Text}
    {caller : Option Caller} {r : Outgoing}
    (hbuild : (ofUrl u.withoutUserinfo timeout).build inbound path method caller = .ok r)
    (h : Run.Indistinct ((ofUrl u timeout).forward network inbound path method caller)
      ((ofUrl u.withoutUserinfo timeout).forward network inbound path method caller)) :
    u.IsDiscreet := by
  by_contra hindiscreet
  rw [u.isDiscreet_iff, Classical.not_imp] at hindiscreet
  obtain ⟨hinfo, huser⟩ := hindiscreet
  obtain ⟨a, ha⟩ := Url.isHosted_of_parse hread huser
  obtain ⟨v, b, shown, hb, hurl, hmade, hshown⟩ := exists_build_of_no_userinfo ha hinfo hbuild
  have hevents := h.events
  unfold forward at hevents
  rw [hmade, hbuild] at hevents
  -- The first event of both runs tells the URL of the request.
  have hfields := congrArg Event.fields (List.cons.inj hevents).1
  have htext : shown.url.text = r.url.text :=
    (Prod.mk.inj (List.cons.inj (List.cons.inj hfields).2).1).2
  rw [hshown, hurl] at htext
  refine Url.text_withUserinfo_ne hb ?_ htext
  rintro ⟨husername, hpassword⟩
  exact huser (Url.withoutUserinfo_eq_self ha.authority husername hpassword)

end Backend

end JobsGateway
