import JobsGateway.Proofs.Backend.Answer
import JobsGateway.Proofs.Gateway.Query
import JobsGateway.Proofs.Settings.Origins

/-!
# Requests stay at the server of the origin

The path and the query of a request come from outside. They are put behind the
text of the origin, and the whole is read again. Whatever they are, it is a URL,
and it names the server that the origin names: the authority ends where it ended
before. So no call fails for its URL, and no request makes the gateway look at
another server.
-/

namespace JobsGateway

/-- Two URLs name the same server, for the same user: they agree in the scheme
and in the user name, password, host and port number of the authority. -/
structure Url.SharesServer (u v : Url) : Prop where
  scheme : u.scheme = v.scheme
  authority : u.authority = v.authority

/-- What is left without user name and password are the scheme, the host and the
port number. -/
theorem Url.SharesServer.withoutUserinfo {u v : Url} (h : u.SharesServer v) :
    u.withoutUserinfo.SharesServer v.withoutUserinfo where
  scheme := h.scheme
  authority := by
    show u.authority.map _ = v.authority.map _
    rw [h.authority]

namespace Backend

/-- A backend that no path, no query and no request leads away from the server
of its origin. -/
structure ConfinedTo (b : Backend) (origin : Url) : Prop where
  /-- Every path with every query has a target, at the server of the origin. -/
  target : ∀ path query, ∃ url, b.target path query = .ok url ∧ url.SharesServer origin
  /-- No request is given up because its URL cannot be read. -/
  build : ∀ inbound path method caller e,
    b.build inbound path method caller ≠ .error (.invalidUrl e)
  /-- No call fails because its URL cannot be read. -/
  forward : ∀ network inbound path method caller e,
    (b.forward network inbound path method caller).result ≠ .error (.invalidUrl e)
  /-- What is built goes to the server of the origin. -/
  goesTo : ∀ inbound path method caller out, b.build inbound path method caller = .ok out →
    out.url.withoutUserinfo.SharesServer origin.withoutUserinfo

section Origin

variable {text : Text} {origin : Url}

theorem exists_target_sharesServer (hparse : Url.parse text = .ok origin)
    (hweb : origin.isWeb = true) (timeout : Duration) (path : Text) (query : Option Text) :
    ∃ url, (ofUrl origin timeout).target path query = .ok url ∧ url.SharesServer origin := by
  obtain ⟨url, segments, htarget, -⟩ := exists_target hparse hweb timeout path query
  exact ⟨url, htarget, scheme_target hparse htarget, authority_target hparse hweb htarget⟩

/-- A backend with a target for every path, at the server of the origin, is
confined to it. -/
theorem confinedTo_of_target {b : Backend}
    (h : ∀ path query, ∃ url, b.target path query = .ok url ∧ url.SharesServer origin) :
    b.ConfinedTo origin := by
  have hread (path : Text) (query : Option Text) (e : UrlError) :
      b.target path query ≠ .error e := by
    obtain ⟨url, htarget, -⟩ := h path query
    rw [htarget]
    exact nofun
  refine ⟨h, ?_, ?_, ?_⟩
  · intro inbound path method caller e hbuild
    exact hread _ _ _ (target_of_build_invalidUrl hbuild)
  · intro network inbound path method caller e hforward
    exact hread _ _ _ (target_of_forward_invalidUrl hforward)
  · intro inbound path method caller out hbuild
    obtain ⟨url, fields, htarget, -, hout⟩ := build_eq_ok hbuild
    obtain ⟨url', htarget', hserver⟩ := h path inbound.query
    rw [htarget] at htarget'
    obtain rfl := Except.ok.inj htarget'
    rw [(Outgoing.build_eq_ok hout).2.2.1]
    exact hserver.withoutUserinfo

theorem confinedTo_of_parse (hparse : Url.parse text = .ok origin) (hweb : origin.isWeb = true)
    (timeout : Duration) : (ofUrl origin timeout).ConfinedTo origin :=
  confinedTo_of_target (exists_target_sharesServer hparse hweb timeout)

end Origin

end Backend

namespace Gateway

/-- A gateway in front of a confined backend has nothing to do with what the
network is like at other servers. -/
theorem handle_congr_of_confinedTo {g : Gateway} {origin : Url}
    (h : g.backend.ConfinedTo origin) {network : Network}
    (hnetwork : ∀ url : Url, url.withoutUserinfo.SharesServer origin.withoutUserinfo →
      network url = g.network url) (request : Request) :
    ({ g with network := network } : Gateway).handle request = g.handle request := by
  refine handle_congr fun out hout => ?_
  obtain ⟨route, caller, path, inbound, hadmits⟩ := (outgoing?_eq_some_iff ..).mp hout
  exact hnetwork out.url (h.goesTo _ _ _ _ _ hadmits.built)

/-- **Requests stay at the server of the origin.** A backend at a URL for HTTP is
confined to its server: every path with every query has a target there, and no
call fails for its URL. This holds for the backend of all settings that load. A
gateway with such a backend answers every request, and writes the same journal,
whatever the network is like at other servers. -/
theorem requests_stay_at_origin :
    (∀ (text : Text) (origin : Url) (timeout : Duration), Url.parse text = .ok origin →
      origin.isWeb = true → (Backend.ofUrl origin timeout).ConfinedTo origin) ∧
    (∀ (env : Environment) (files : Files) (s : Settings), Settings.load env files = .ok s →
      (Backend.ofUrl s.backendUrl s.timeout).ConfinedTo s.backendUrl) ∧
    ∀ (g : Gateway) (origin : Url), g.backend.ConfinedTo origin → ∀ network : Network,
      (∀ url : Url, url.withoutUserinfo.SharesServer origin.withoutUserinfo →
        network url = g.network url) →
      ∀ request,
        ({ g with network := network } : Gateway).handle request = g.handle request := by
  refine ⟨fun _ _ timeout hparse hweb => Backend.confinedTo_of_parse hparse hweb timeout, ?_,
    fun _ _ h _ hnetwork => handle_congr_of_confinedTo h hnetwork⟩
  intro env files s hload
  obtain ⟨hread, hweb, -⟩ := Settings.urls_of_load hload
  obtain ⟨text, hparse⟩ := hread.backend
  exact Backend.confinedTo_of_parse hparse hweb s.timeout

/-- A path that is written like the rest of an address stays behind the origin,
as does a query. A backend that the environment names is silent, and a job that
is asked for comes to the same whether or not all other hosts refuse. -/
theorem disguised_address_stays_at_origin :
    (∃ origin url, Url.parse "https://u:p@[::1]:8443/v1/?x#y".toList = .ok origin ∧
      (Backend.ofUrl origin ⟨1000⟩).target "/\\@other:1/..?#\t".toList
        (some "@other".toList) = .ok url ∧
      url.scheme = "https".toList ∧
      url.authority = some ⟨['u'], ['p'], some (.ipv6 [0, 0, 0, 0, 0, 0, 0, 1]), some 8443⟩) ∧
    ∃ s, Settings.load (Settings.onlyBackend "http://jobs/api") (fun _ => .error .missing) =
        .ok s ∧
      let g : Gateway := ⟨.ofUrl s.backendUrl s.timeout, 16,
        .fixed (.ok (.ofId "u1".toList)), fun _ => .silent⟩
      let others : Network := fun url =>
        if url.withoutUserinfo.host? = s.backendUrl.withoutUserinfo.host? then .silent
        else .refused
      let request : Request := ⟨Method.get, .path "/jobs/@other:1".toList none, [], ⟨[], none⟩⟩
      ({ g with network := others } : Gateway).handle request = g.handle request := by
  obtain ⟨hparsed, hloaded, hnetwork⟩ := requests_stay_at_origin
  constructor
  · have hread : (Url.parse "https://u:p@[::1]:8443/v1/?x#y".toList).toOption.any (fun u =>
        u.isWeb && u.scheme = "https".toList && u.authority =
          some ⟨['u'], ['p'], some (.ipv6 [0, 0, 0, 0, 0, 0, 0, 1]), some 8443⟩) = true := by
      decide +kernel
    obtain ⟨origin, horigin, hfields⟩ := (Option.any_eq_true ..).mp hread
    rw [Outcome.toOption_eq_some_iff] at horigin
    simp only [Bool.and_eq_true, decide_eq_true_eq] at hfields
    obtain ⟨⟨hweb, hscheme⟩, hauthority⟩ := hfields
    obtain ⟨url, htarget, hserver⟩ := (hparsed _ origin ⟨1000⟩ horigin hweb).target
      "/\\@other:1/..?#\t".toList (some "@other".toList)
    exact ⟨origin, url, horigin, htarget, hserver.scheme.trans hscheme,
      hserver.authority.trans hauthority⟩
  · have hload : (Settings.load (Settings.onlyBackend "http://jobs/api")
        fun _ => .error .missing).toOption.isSome = true := by decide +kernel
    obtain ⟨s, hs⟩ := Option.isSome_iff_exists.mp hload
    rw [Outcome.toOption_eq_some_iff] at hs
    refine ⟨s, hs, ?_⟩
    intro g others request
    refine hnetwork g s.backendUrl (hloaded _ _ s hs) others ?_ request
    intro url hserver
    have hhost : url.withoutUserinfo.host? = s.backendUrl.withoutUserinfo.host? :=
      congrArg (·.bind Authority.host) hserver.authority
    exact if_pos hhost

end Gateway

end JobsGateway
