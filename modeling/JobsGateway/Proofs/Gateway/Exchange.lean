import JobsGateway.Gateway.Handler
import JobsGateway.Proofs.Client.Delivery
import JobsGateway.Proofs.Outcome
import JobsGateway.Proofs.Route.Dispatch

/-!
# One question and one exchange for each request

A run of the gateway asks the verifier once if the request is dispatched to a
route, and never otherwise. It sends at most one request to the backend, and
only after the caller is known, the path fits the route, the body is acceptable
and the request can be put together. `Admits` names these five conditions;
`outgoing?` is the request that they lead to.
-/

namespace JobsGateway

/-! ## The body that is taken up -/

theorem collectChunks_ok {room : Nat} {fault : Option Text} {chunks : List Bytes}
    {body : Bytes} (h : collectChunks room fault chunks = .ok body) :
    body = chunks.flatten := by
  induction chunks generalizing room body with
  | nil =>
      cases fault with
      | none =>
          cases h
          rfl
      | some cause => cases h
  | cons chunk rest ih =>
      rw [collectChunks] at h
      split at h
      · cases h
      · obtain ⟨more, hrest, rfl⟩ := Outcome.map_eq_ok_iff.mp h
        rw [ih hrest, List.flatten_cons]

/-- What is taken up of a request: its fields, its query, and for some methods
its whole body. -/
theorem read_ok {limit : Nat} {request : Request} {method : Text} {inbound : Inbound}
    (h : Inbound.read limit request method = .ok inbound) :
    inbound.fields = request.fields ∧ inbound.query = request.target.query ∧
      inbound.body = if Method.carriesBody method then request.body.chunks.flatten else [] := by
  unfold Inbound.read at h
  split at h
  · rename_i hcarries
    obtain ⟨body, hbody, rfl⟩ := Outcome.map_eq_ok_iff.mp h
    exact ⟨rfl, rfl, by rw [if_pos hcarries]; exact collectChunks_ok hbody⟩
  · rename_i hcarries
    cases h
    exact ⟨rfl, rfl, by rw [if_neg hcarries]⟩

/-! ## Calls to the backend -/

namespace Backend

theorem build_eq_ok {b : Backend} {inbound : Inbound} {path method : Text}
    {caller : Option Caller} {r : Outgoing}
    (h : b.build inbound path method caller = .ok r) :
    ∃ url fields, b.target path inbound.query = .ok url ∧
      Crossing.outbound inbound.fields caller = .ok fields ∧
      Outgoing.build method url fields
        (if Method.carriesBody method then some inbound.body else none) = .ok r := by
  obtain ⟨url, hurl, h⟩ := Outcome.bind_eq_ok_iff.mp h
  obtain ⟨fields, hfields, h⟩ := Outcome.bind_eq_ok_iff.mp h
  exact ⟨url, fields, Outcome.mapError_eq_ok_iff.mp hurl, Outcome.mapError_eq_ok_iff.mp hfields,
    Outcome.mapError_eq_ok_iff.mp h⟩

/-- A request to the backend has the method that it is built with. -/
theorem method_of_build {b : Backend} {inbound : Inbound} {path method : Text}
    {caller : Option Caller} {r : Outgoing}
    (h : b.build inbound path method caller = .ok r) : r.method = method := by
  obtain ⟨url, fields, -, -, hout⟩ := build_eq_ok h
  exact (Outgoing.build_eq_ok hout).1

/-- What happens while a request is sent: the backend reads it, and an event says
what came of it. -/
theorem exists_journal_exchange (b : Backend) (network : Network) (r : Outgoing) :
    ∃ event, (b.exchange network r).journal =
      (r.send network).received.toList.map Entry.backendRequest ++ [.event event] := by
  unfold exchange
  cases hanswer : (r.send network).outcome.bind Reply.whole <;> simp only [hanswer] <;>
    exact ⟨_, rfl⟩

@[simp] theorem verifications_forward (b : Backend) (network : Network)
    (inbound : Inbound) (path method : Text) (caller : Option Caller) :
    (b.forward network inbound path method caller).journal.verifications = 0 := by
  unfold forward
  cases b.build inbound path method caller with
  | error f => rfl
  | ok r =>
      obtain ⟨event, hjournal⟩ := exists_journal_exchange b network r
      show (b.exchange network r).journal.verifications = 0
      rw [hjournal, Journal.verifications_append, Journal.verifications_map_backendRequest]
      rfl

/-- What the backend reads of a call is what it reads of its request. -/
theorem backendRequests_forward (b : Backend) (network : Network) (inbound : Inbound)
    (path method : Text) (caller : Option Caller) :
    (b.forward network inbound path method caller).journal.backendRequests =
      (b.build inbound path method caller).toOption.elim [] fun r =>
        (r.send network).received.toList := by
  unfold forward
  cases b.build inbound path method caller with
  | error f => rfl
  | ok r =>
      obtain ⟨event, hjournal⟩ := exists_journal_exchange b network r
      show (b.exchange network r).journal.backendRequests = _
      rw [hjournal, Journal.backendRequests_append, Journal.backendRequests_map_backendRequest]
      exact List.append_nil _

/-- The backend reads a request exactly if it is built and gets there. -/
theorem mem_backendRequests_forward {b : Backend} {network : Network} {inbound : Inbound}
    {path method : Text} {caller : Option Caller} {d : Delivery} :
    d ∈ (b.forward network inbound path method caller).journal.backendRequests ↔
      ∃ r, b.build inbound path method caller = .ok r ∧ r.Reaches network ∧ d = r.deliver := by
  rw [backendRequests_forward]
  cases b.build inbound path method caller with
  | error f => simp [Except.toOption]
  | ok r => simp [Except.toOption, Outgoing.mem_received_send]

/-- A call depends on what the network does at the URL of its one request. -/
theorem forward_congr {b : Backend} {network other : Network} {inbound : Inbound}
    {path method : Text} {caller : Option Caller}
    (h : ∀ r, b.build inbound path method caller = .ok r →
      other r.url = network r.url) :
    b.forward other inbound path method caller =
      b.forward network inbound path method caller := by
  unfold forward exchange
  cases hbuild : b.build inbound path method caller with
  | error f => rfl
  | ok r => simp only [Outgoing.send_congr (h r hbuild)]

end Backend

namespace Gateway

/-! ## The request that a run leads to -/

/-- All that has to hold before anything is sent to the backend. -/
structure Admits (g : Gateway) (request : Request) (route : Route) (caller : Caller)
    (path : Text) (inbound : Inbound) (out : Outgoing) : Prop where
  dispatched : Dispatch.find request.method request.target.pathText = .route route
  verified : (g.verifier request.fields).outcome = .ok caller
  fits : route.backendPath request.target.pathText = some path
  taken : Inbound.read g.bodyLimit request route.verb.method = .ok inbound
  built : g.backend.build inbound path route.verb.method (some caller) = .ok out

/-- The request that a verified caller's request to a route leads to. -/
def outgoingFor? (g : Gateway) (route : Route) (caller : Caller) (request : Request) :
    Option Outgoing := do
  let path ← route.backendPath request.target.pathText
  let inbound ← (Inbound.read g.bodyLimit request route.verb.method).toOption
  (g.backend.build inbound path route.verb.method (some caller)).toOption

/-- The request to the backend that a request leads to. -/
def outgoing? (g : Gateway) (request : Request) : Option Outgoing :=
  match Dispatch.find request.method request.target.pathText with
  | .route route =>
    (g.verifier request.fields).outcome.toOption.bind fun caller =>
      g.outgoingFor? route caller request
  | _ => none

theorem outgoing?_eq_some_iff (g : Gateway) (request : Request) (out : Outgoing) :
    g.outgoing? request = some out ↔
      ∃ route caller path inbound, g.Admits request route caller path inbound out := by
  unfold outgoing?
  constructor
  · intro h
    split at h
    · rename_i route hfind
      obtain ⟨caller, hcaller, h⟩ := Option.bind_eq_some_iff.mp h
      obtain ⟨path, hpath, h⟩ := Option.bind_eq_some_iff.mp h
      obtain ⟨inbound, hread, h⟩ := Option.bind_eq_some_iff.mp h
      exact ⟨route, caller, path, inbound, hfind, Outcome.toOption_eq_some_iff.mp hcaller, hpath,
        Outcome.toOption_eq_some_iff.mp hread, Outcome.toOption_eq_some_iff.mp h⟩
    · cases h
  · rintro ⟨route, caller, path, inbound, h⟩
    simp [h.dispatched, outgoingFor?, h.verified, h.fits, h.taken, h.built, Except.toOption]

/-! ## One run -/

theorem backendRequests_receive (g : Gateway) (route : Route) (caller : Caller)
    (request : Request) :
    (g.receive route caller request).journal.backendRequests =
      (g.outgoingFor? route caller request).elim [] fun r =>
        (r.send g.network).received.toList := by
  unfold receive outgoingFor?
  cases route.backendPath request.target.pathText with
  | none => rfl
  | some path =>
      cases hread : Inbound.read g.bodyLimit request route.verb.method with
      | error rejection => rfl
      | ok inbound =>
          simp only [passOn]
          exact Backend.backendRequests_forward ..

theorem verifications_receive (g : Gateway) (route : Route) (caller : Caller)
    (request : Request) :
    (g.receive route caller request).journal.verifications = 0 := by
  unfold receive
  cases route.backendPath request.target.pathText with
  | none => rfl
  | some path =>
      cases hread : Inbound.read g.bodyLimit request route.verb.method with
      | error rejection => rfl
      | ok inbound =>
          simp only [passOn]
          exact Backend.verifications_forward ..

/-- What happens while the verifier is asked: one question, which the identity
endpoint may read, and no more. -/
theorem journal_asked (ds : List Delivery) :
    let j : Journal := .verification :: ds.map Entry.identityRequest
    j.verifications = 1 ∧ j.identityRequests = ds ∧ j.backendRequests = [] ∧ j.events = [] := by
  refine ⟨?_, Journal.identityRequests_map_identityRequest ds,
    Journal.backendRequests_map_identityRequest ds, Journal.events_map_identityRequest ds⟩
  exact congrArg Nat.succ (Journal.verifications_map_identityRequest ds)

theorem journal_serve (g : Gateway) (route : Route) (request : Request) :
    (g.serve route request).journal.verifications = 1 ∧
      (g.serve route request).journal.backendRequests =
        ((g.verifier request.fields).outcome.toOption.bind fun caller =>
          g.outgoingFor? route caller request).elim [] fun r =>
            (r.send g.network).received.toList := by
  obtain ⟨hasked, -, hnone, -⟩ := journal_asked (g.verifier request.fields).asked.toList
  unfold serve
  cases hv : (g.verifier request.fields).outcome with
  | error f =>
      simp only [hv, Journal.verifications_append, Journal.backendRequests_append, hasked,
        hnone]
      exact ⟨rfl, rfl⟩
  | ok caller =>
      simp only [hv, Journal.verifications_append, Journal.backendRequests_append, hasked,
        hnone, verifications_receive, backendRequests_receive]
      exact ⟨trivial, rfl⟩

theorem backendRequests_handle (g : Gateway) (request : Request) :
    (g.handle request).journal.backendRequests =
      (g.outgoing? request).elim [] fun r => (r.send g.network).received.toList := by
  unfold handle outgoing?
  cases Dispatch.find request.method request.target.pathText with
  | route route => exact (journal_serve g route request).2
  | health => rfl
  | wrongMethod allowed => rfl
  | unknownPath => rfl
  | noPath => rfl

/-- The backend reads a request exactly if the run leads to it and it gets there. -/
theorem mem_backendRequests_handle {g : Gateway} {request : Request} {d : Delivery} :
    d ∈ (g.handle request).journal.backendRequests ↔
      ∃ out, g.outgoing? request = some out ∧ out.Reaches g.network ∧ d = out.deliver := by
  rw [backendRequests_handle]
  cases g.outgoing? request with
  | none => simp
  | some out => simp [Outgoing.mem_received_send]

theorem verifications_handle (g : Gateway) (request : Request) :
    (g.handle request).journal.verifications =
      match Dispatch.find request.method request.target.pathText with
      | .route _ => 1
      | _ => 0 := by
  unfold handle
  cases Dispatch.find request.method request.target.pathText with
  | route route => exact (journal_serve g route request).1
  | health => rfl
  | wrongMethod allowed => rfl
  | unknownPath => rfl
  | noPath => rfl

/-- Where the verifier does not know the caller, its failure is the answer. -/
theorem result_handle_of_failure {g : Gateway} {request : Request} {route : Route}
    {f : AuthFailure}
    (hfind : Dispatch.find request.method request.target.pathText = .route route)
    (hf : (g.verifier request.fields).outcome = .error f) :
    (g.handle request).result = finish request.method f.response := by
  unfold handle serve
  rw [hfind]
  simp only [hf]

/-! ## How an answer goes out -/

theorem status_finish (method : Text) (r : Response) :
    (finish method r).status = r.status := by
  unfold finish withLength
  split <;> rfl

theorem body_finish (method : Text) (r : Response) :
    (finish method r).body = if method = Method.head then [] else r.body := by
  unfold finish
  split <;> rfl

theorem fields_finish (method : Text) (r : Response) :
    (finish method r).fields =
      r.fields.putNew FieldName.contentLength (numberOctets r.body.length) := by
  unfold finish
  split <;> rfl

/-- An answer goes out with its fields, but for its length. -/
theorem values_finish_of_ne {name : Text} (h : FieldName.contentLength ≠ name) (method : Text)
    (r : Response) : (finish method r).fields.values name = r.fields.values name := by
  rw [fields_finish, Fields.values_putNew_of_ne _ h]

/-- A length is added where an answer tells none. -/
theorem values_finish_contentLength (method : Text) (r : Response) :
    (finish method r).fields.values FieldName.contentLength =
      if r.fields.values FieldName.contentLength = [] then [numberOctets r.body.length]
      else r.fields.values FieldName.contentLength := by
  rw [fields_finish, Fields.values_putNew_self]

/-! ## The run as a whole -/

/-- A run depends on what the network does at the URL of its one request. -/
theorem handle_congr {g : Gateway} {request : Request} {network : Network}
    (h : ∀ out, g.outgoing? request = some out → network out.url = g.network out.url) :
    ({ g with network := network } : Gateway).handle request = g.handle request := by
  unfold handle
  cases hfind : Dispatch.find request.method request.target.pathText with
  | route route =>
      unfold serve
      cases hv : (g.verifier request.fields).outcome with
      | error f => simp only [hv]
      | ok caller =>
          -- The network is looked at only when the built request is sent.
          have hforward : ({ g with network := network } : Gateway).receive route caller request =
              g.receive route caller request := by
            unfold receive
            cases hpath : route.backendPath request.target.pathText with
            | none => rfl
            | some path =>
                cases hread : Inbound.read g.bodyLimit request route.verb.method with
                | error rejection => rfl
                | ok inbound =>
                    simp only [passOn]
                    rw [Backend.forward_congr]
                    intro r hbuild
                    exact h r ((outgoing?_eq_some_iff g request r).mpr
                      ⟨route, caller, path, inbound, hfind, hv, hpath, hread, hbuild⟩)
          simp only [hv, hforward]
  | health => rfl
  | wrongMethod allowed => rfl
  | unknownPath => rfl
  | noPath => rfl

/-- The request that a run leads to is the one that arrived, with the URL and
the fields that the backend is told. -/
theorem Admits.conveys {g : Gateway} {request : Request} {route : Route} {caller : Caller}
    {path : Text} {inbound : Inbound} {out : Outgoing}
    (h : g.Admits request route caller path inbound out) :
    ∃ url fields, g.backend.target path request.target.query = .ok url ∧
      Crossing.outbound request.fields (some caller) = .ok fields ∧
      out.url.withoutUserinfo = url.withoutUserinfo ∧
      out.deliver.Conveys route.verb.method url fields
        (if Method.carriesBody route.verb.method then request.body.chunks.flatten else []) := by
  obtain ⟨hfields, hquery, hbody⟩ := read_ok h.taken
  obtain ⟨url, fields, htarget, houtbound, hbuild⟩ := Backend.build_eq_ok h.built
  rw [hquery] at htarget
  rw [hfields] at houtbound
  refine ⟨url, fields, htarget, houtbound, (Outgoing.build_eq_ok hbuild).2.2.1, ?_⟩
  have hconveys := Outgoing.conveys_deliver hbuild
  rw [hbody] at hconveys
  cases hcarries : Method.carriesBody route.verb.method with
  | true => simpa [hcarries] using hconveys
  | false => simpa [hcarries] using hconveys

/-- **One question and one exchange.** The verifier is asked once if the request
is dispatched to an entry of the table, and never otherwise; if it does not know
the caller, its failure is the answer. The backend reads at most one request. It
reads one exactly if the request is admitted and gets there, and what it reads
is the verb of the route, the target of the URL, the fields that cross and the
body that the verb carries. Nothing depends on what the network does anywhere
but at the URL of that request, so no answer makes the gateway try again or go
elsewhere. Any client that follows no reply and keeps no connection sends a
request as the gateway does, and tries it once at most. -/
theorem handle_exchanges_once (g : Gateway) (request : Request) :
    (∀ route, Dispatch.find request.method request.target.pathText = .route route →
      route ∈ Route.table ∧ route.verb.method = Dispatch.servedAs request.method) ∧
    ((g.handle request).journal.verifications =
      match Dispatch.find request.method request.target.pathText with
      | .route _ => 1
      | _ => 0) ∧
    (∀ route f, Dispatch.find request.method request.target.pathText = .route route →
      (g.verifier request.fields).outcome = .error f →
      (g.handle request).result = finish request.method f.response ∧
        ((g.handle request).result.status = .unauthorized ∨
          (g.handle request).result.status = .badGateway)) ∧
    (g.handle request).journal.backendRequests.length ≤ 1 ∧
    (∀ d, d ∈ (g.handle request).journal.backendRequests ↔
      ∃ route caller path inbound out,
        g.Admits request route caller path inbound out ∧ out.Reaches g.network ∧
          d = out.deliver) ∧
    (∀ route caller path inbound out, g.Admits request route caller path inbound out →
      ∃ url fields, g.backend.target path request.target.query = .ok url ∧
        Crossing.outbound request.fields (some caller) = .ok fields ∧
        out.url.withoutUserinfo = url.withoutUserinfo ∧
        out.deliver.Conveys route.verb.method url fields
          (if Method.carriesBody route.verb.method then request.body.chunks.flatten
            else [])) ∧
    (∀ network : Network,
      (∀ route caller path inbound out, g.Admits request route caller path inbound out →
        network out.url = g.network out.url) →
      ({ g with network := network } : Gateway).handle request = g.handle request) ∧
    (∀ (c : Client) (stale : Url → Nat) (out : Outgoing), c.redirects = 0 → c.idle = 0 →
      c.send stale g.network out = out.send g.network ∧ (out.send g.network).tries ≤ 1) := by
  refine ⟨fun route => Dispatch.find_eq_route, verifications_handle g request, ?_, ?_, ?_,
    fun _ _ _ _ _ h => h.conveys, ?_, ?_⟩
  · intro route f hfind hf
    have hresult := result_handle_of_failure hfind hf
    refine ⟨hresult, ?_⟩
    rw [hresult, status_finish]
    cases f with
    | noCredentials => exact Or.inl rfl
    | rejected status => exact Or.inl rfl
    | unavailable cause => exact Or.inr rfl
  · rw [backendRequests_handle]
    cases g.outgoing? request with
    | none => exact Nat.zero_le 1
    | some out => exact Outgoing.size_received_send out g.network
  · intro d
    rw [mem_backendRequests_handle]
    constructor
    · rintro ⟨out, hout, hreaches, rfl⟩
      obtain ⟨route, caller, path, inbound, hadmits⟩ := (outgoing?_eq_some_iff ..).mp hout
      exact ⟨route, caller, path, inbound, out, hadmits, hreaches, rfl⟩
    · rintro ⟨route, caller, path, inbound, out, hadmits, hreaches, rfl⟩
      exact ⟨out, (outgoing?_eq_some_iff ..).mpr ⟨route, caller, path, inbound, hadmits⟩,
        hreaches, rfl⟩
  · intro network h
    refine handle_congr fun out hout => ?_
    obtain ⟨route, caller, path, inbound, hadmits⟩ := (outgoing?_eq_some_iff ..).mp hout
    exact h route caller path inbound out hadmits
  · intro c stale out hredirects hidle
    exact ⟨Client.send_of_steady hredirects hidle stale g.network out,
      (Client.send_bounds Client.steady (fun _ => 0) g.network out).1⟩

/-- A job that a known caller posts in two pieces reaches the backend once and
whole. Posted by an unknown caller it is refused and does not get there. -/
theorem posted_job_reaches_backend :
    let request : Request :=
      ⟨Method.post, .path "/jobs".toList none, [], ⟨[octets "1", octets "2"], none⟩⟩
    let gateway (verifier : Verifier) : Gateway :=
      ⟨⟨"http://127.0.0.1:55551".toList, ⟨30000⟩⟩, 16, verifier, fun _ => .silent⟩
    (∃ d, ((gateway (.fixed (.ok (.ofId "u1".toList)))).handle request).journal.backendRequests =
        [d] ∧ d.method = Method.post ∧ d.body = octets "12") ∧
      ((gateway (.fixed (.error .noCredentials))).handle request).result.status =
        .unauthorized ∧
      ((gateway (.fixed (.error .noCredentials))).handle request).journal.backendRequests =
        [] := by
  intro request gateway
  have hfind : Dispatch.find request.method request.target.pathText =
      .route (Route.same "create_job" .post "jobs") := by decide +kernel
  obtain ⟨-, -, -, hle, hreads, hconveys, -⟩ :=
    handle_exchanges_once (gateway (.fixed (.ok (.ofId "u1".toList)))) request
  obtain ⟨-, -, hrefused, -, hnothing, -, -⟩ :=
    handle_exchanges_once (gateway (.fixed (.error .noCredentials))) request
  refine ⟨?_, ?_, ?_⟩
  · have hbuilt : ((gateway (.fixed (.ok (.ofId "u1".toList)))).backend.build
        ⟨[], none, octets "12"⟩ "jobs".toList Method.post
        (some (.ofId "u1".toList))).toOption.any
          (fun r => r.url.isWeb && isAskable r.url) = true := by decide +kernel
    obtain ⟨out, hout, hgood⟩ := (Option.any_eq_true ..).mp hbuilt
    obtain ⟨hweb, hask⟩ := Bool.and_eq_true_iff.mp hgood
    have hadmits : (gateway (.fixed (.ok (.ofId "u1".toList)))).Admits request
        (Route.same "create_job" .post "jobs") (.ofId "u1".toList) "jobs".toList
        ⟨[], none, octets "12"⟩ out :=
      ⟨hfind, rfl, by decide +kernel, by rfl, Outcome.toOption_eq_some_iff.mp hout⟩
    have hread := (hreads out.deliver).mpr
      ⟨_, _, _, _, out, hadmits, ⟨hweb, hask, [], .stalls, rfl⟩, rfl⟩
    obtain ⟨url, fields, -, -, -, hd⟩ := hconveys _ _ _ _ _ hadmits
    obtain ⟨d, honly⟩ :=
      List.length_eq_one_iff.mp (Nat.le_antisymm hle (List.length_pos_of_mem hread))
    have hsent : d = out.deliver := (List.mem_singleton.mp (honly ▸ hread)).symm
    exact ⟨d, honly, hsent ▸ hd.method, hsent ▸ hd.body⟩
  · rw [(hrefused _ _ hfind rfl).1]
    rfl
  · refine List.eq_nil_iff_forall_not_mem.mpr fun d hd => ?_
    obtain ⟨route, caller, path, inbound, out, hadmits, -⟩ := (hnothing d).mp hd
    cases hadmits.verified

end Gateway

end JobsGateway
