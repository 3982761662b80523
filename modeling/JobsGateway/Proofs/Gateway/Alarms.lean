import JobsGateway.Proofs.Backend.Discretion
import JobsGateway.Proofs.Gateway.Relay
import JobsGateway.Proofs.Gateway.Routing
import JobsGateway.Proofs.Route.Copying

/-!
# Every failure of the gateway's own raises one alarm

An event that warns or tells of an error is an alarm. A request that the gateway
fails to serve raises one, and so does a path whose values it refuses; whatever
the backend answers raises none, and neither does a request that is turned away.
A call that is sent is logged when it goes out, and once more when it ends.
-/

namespace JobsGateway

/-- Somebody should look at an event. -/
def Event.isAlarm (e : Event) : Bool :=
  e.level = .warn || e.level = .error

namespace Journal

/-- The logged events that somebody should look at. -/
def alarms (j : Journal) : List Event :=
  j.events.filter Event.isAlarm

end Journal

/-! ## Calls to the backend -/

namespace Backend

/-- The event that a call which was sent ends with. -/
def outcomeEvent (b : Backend) (out : Outgoing) : Except Failure Response → Event
  | .ok response => responded out response.status
  | .error f => b.failed out f

/-- The event of a call that is about to be sent. -/
def announces (e : Event) : Bool :=
  e.message = "Forwarding request upstream"

section Call

variable {b : Backend} {network : Network} {inbound : Inbound} {path method : Text}
  {caller : Option Caller}

theorem events_forward_of_error {f : Failure}
    (h : b.build inbound path method caller = .error f) :
    (b.forward network inbound path method caller).journal.events =
      [unbuildable method path f] := by
  rw [forward, h]
  rfl

/-- **A call that is sent is logged when it goes out and when it ends,** and
what is logged in the end is what has come of it. -/
theorem events_forward_of_ok {out : Outgoing}
    (h : b.build inbound path method caller = .ok out) :
    (b.forward network inbound path method caller).journal.events =
      [forwarding out caller,
        b.outcomeEvent out (b.forward network inbound path method caller).result] := by
  rw [forward, h]
  show forwarding out caller :: (b.exchange network out).journal.events =
    [forwarding out caller, b.outcomeEvent out (b.exchange network out).result]
  obtain ⟨hresult, hevents⟩ := exchange_eq b network out
  rw [hevents, hresult]
  cases (out.send network).outcome.bind Reply.whole <;> rfl

end Call

end Backend

namespace Gateway

open Route (bindings segmentsOf)

/-! ## How the handling of a request ends -/

/-- The ways in which the handling of a request ends. -/
inductive Ending where
  | unknownPath
  | wrongMethod
  | healthy
  | unauthenticated (f : AuthFailure)
  | refusedPath
  | refusedBody (r : BodyRejection)
  | unbuilt (f : Backend.Failure)
  | unanswered (f : Backend.Failure)
  | relayed (reply : Response)

namespace Ending

/-- The status that an ending is answered with. -/
def status : Ending → Status
  | .unknownPath | .refusedPath => .notFound
  | .wrongMethod => .methodNotAllowed
  | .healthy => .ok
  | .unauthenticated f => f.response.status
  | .refusedBody r => r.status
  | .unbuilt f | .unanswered f => f.status
  | .relayed reply => reply.status

/-- The answer is not one of the backend. -/
def IsOwn (e : Ending) : Prop :=
  ∀ reply, e ≠ .relayed reply

/-- A call was sent to the backend. -/
def wasSent : Ending → Bool
  | .unanswered _ | .relayed _ => true
  | _ => false

/-- The gateway failed to serve the request by itself, or has refused a value of
its path. -/
def IsFailure (e : Ending) : Prop :=
  (e.IsOwn ∧ 500 ≤ e.status.code ∧ e.status.code < 600) ∨ e = .refusedPath

/-- How grave a failure is: to refuse a path and to wait in vain is no error. -/
def gravity : Ending → Level
  | .refusedPath => .warn
  | e => if e.status = .gatewayTimeout then .warn else .error

/-- What is logged on the way to an ending. -/
def Logs (b : Backend) (events : List Event) : Ending → Prop
  | .unauthenticated f => events = [f.event]
  | .refusedPath => ∃ route path, events = [pathRefused route path]
  | .unbuilt f => ∃ route caller path,
      events = [proxying route caller path, Backend.unbuildable route.verb.method path f]
  | .unanswered f => ∃ route caller path out,
      events = [proxying route caller path, Backend.forwarding out (some caller),
        b.failed out f]
  | .relayed reply => ∃ route caller path out,
      events = [proxying route caller path, Backend.forwarding out (some caller),
        Backend.responded out reply.status]
  | _ => events = []

/-- The failures, one by one. The answer to each but one has a status of the
server. -/
theorem isFailure_iff {e : Ending} :
    e.IsFailure ↔ e = .refusedPath ∨ (∃ cause, e = .unauthenticated (.unavailable cause)) ∨
      (∃ f, e = .unbuilt f) ∨ ∃ f, e = .unanswered f := by
  have hstatus (f : Backend.Failure) : 500 ≤ f.status.code ∧ f.status.code < 600 := by
    cases f <;> exact ⟨Nat.le_of_ble_eq_true rfl, Nat.le_of_ble_eq_true rfl⟩
  unfold IsFailure IsOwn
  cases e with
  | unauthenticated f => cases f <;> simp [status, AuthFailure.response, Response.detail,
      Response.json, Response.typed, Status.unauthorized, Status.badGateway]
  | refusedBody r => cases r <;> simp [status, BodyRejection.status, Status.payloadTooLarge,
      Status.badRequest]
  | unbuilt f => simp [status, hstatus f]
  | unanswered f => simp [status, hstatus f]
  | _ => simp [status, Status.notFound, Status.methodNotAllowed, Status.ok]

/-- **A failure raises one alarm, and nothing else does.** A call that cannot be put
together has not been waited for. -/
theorem Logs.alarms {b : Backend} {events : List Event} {e : Ending} (h : e.Logs b events)
    (hwait : e ≠ .unbuilt .timeout) :
    (e.IsFailure → ∃ alarm, events.filter Event.isAlarm = [alarm] ∧ alarm.level = e.gravity) ∧
      (¬ e.IsFailure → events.filter Event.isAlarm = []) := by
  rw [isFailure_iff]
  cases e with
  | unauthenticated f =>
      cases h
      cases f with
      | unavailable cause => exact ⟨fun _ => ⟨_, rfl, rfl⟩, fun hnot => absurd (by simp) hnot⟩
      | noCredentials => exact ⟨fun hfailure => by simp at hfailure, fun _ => rfl⟩
      | rejected s => exact ⟨fun hfailure => by simp at hfailure, fun _ => rfl⟩
  | refusedPath =>
      obtain ⟨route, path, rfl⟩ := h
      exact ⟨fun _ => ⟨_, rfl, rfl⟩, fun hnot => absurd (by simp) hnot⟩
  | unbuilt f =>
      obtain ⟨route, caller, path, rfl⟩ := h
      refine ⟨fun _ => ⟨_, rfl, ?_⟩, fun hnot => absurd (by simp) hnot⟩
      cases f with
      | timeout => exact absurd rfl hwait
      | _ => rfl
  | unanswered f =>
      obtain ⟨route, caller, path, out, rfl⟩ := h
      refine ⟨fun _ => ⟨b.failed out f, ?_, ?_⟩, fun hnot => absurd (by simp) hnot⟩
      · cases f <;> rfl
      · cases f <;> rfl
  | relayed reply =>
      obtain ⟨route, caller, path, out, rfl⟩ := h
      exact ⟨fun hfailure => by simp at hfailure, fun _ => rfl⟩
  | _ =>
      cases h
      exact ⟨fun hfailure => by simp at hfailure, fun _ => rfl⟩

/-- A call is announced once if it is sent, and never otherwise. -/
theorem Logs.announcements {b : Backend} {events : List Event} {e : Ending}
    (h : e.Logs b events) :
    events.countP Backend.announces = if e.wasSent then 1 else 0 := by
  cases e with
  | unauthenticated f =>
      cases h
      cases f <;> rfl
  | refusedPath =>
      obtain ⟨route, path, rfl⟩ := h
      rfl
  | unbuilt f =>
      obtain ⟨route, caller, path, rfl⟩ := h
      rfl
  | unanswered f =>
      obtain ⟨route, caller, path, out, rfl⟩ := h
      cases f <;> rfl
  | relayed reply =>
      obtain ⟨route, caller, path, out, rfl⟩ := h
      rfl
  | _ =>
      cases h
      rfl

end Ending

/-- How the handling of a request ends, from the request, what the verifier says
and what the backend answers. -/
inductive Ends (g : Gateway) (request : Request) : Ending → Prop
  | unknownPath : (Dispatch.find request.method request.target.pathText = .unknownPath ∨
        Dispatch.find request.method request.target.pathText = .noPath) →
      Ends g request .unknownPath
  | wrongMethod {allowed : List Text} :
      Dispatch.find request.method request.target.pathText = .wrongMethod allowed →
      Ends g request .wrongMethod
  | healthy : Dispatch.find request.method request.target.pathText = .health →
      Ends g request .healthy
  | unauthenticated {route : Route} {f : AuthFailure} :
      Dispatch.find request.method request.target.pathText = .route route →
      (g.verifier request.fields).outcome = .error f → Ends g request (.unauthenticated f)
  | refusedPath {route : Route} {caller : Caller} :
      Dispatch.find request.method request.target.pathText = .route route →
      (g.verifier request.fields).outcome = .ok caller →
      (∃ b ∈ bindings route.pattern (segmentsOf request.target.pathText), isUnsafe b.2) →
      Ends g request .refusedPath
  | refusedBody {route : Route} {caller : Caller} {path : Text} {r : BodyRejection} :
      Dispatch.find request.method request.target.pathText = .route route →
      (g.verifier request.fields).outcome = .ok caller →
      route.backendPath request.target.pathText = some path →
      Inbound.read g.bodyLimit request route.verb.method = .error r →
      Ends g request (.refusedBody r)
  | unbuilt {route : Route} {caller : Caller} {path : Text} {inbound : Inbound}
      {f : Backend.Failure} :
      Dispatch.find request.method request.target.pathText = .route route →
      (g.verifier request.fields).outcome = .ok caller →
      route.backendPath request.target.pathText = some path →
      Inbound.read g.bodyLimit request route.verb.method = .ok inbound →
      g.backend.build inbound path route.verb.method (some caller) = .error f →
      Ends g request (.unbuilt f)
  | unanswered {route : Route} {caller : Caller} {path : Text} {inbound : Inbound}
      {out : Outgoing} {e : ClientError} :
      g.Admits request route caller path inbound out → out.answer g.network = .error e →
      Ends g request (.unanswered (.ofClient e))
  | relayed {route : Route} {caller : Caller} {path : Text} {inbound : Inbound}
      {out : Outgoing} {reply : Response} :
      g.Admits request route caller path inbound out → out.answer g.network = .ok reply →
      Ends g request (.relayed reply)

/-- The guard alone keeps a request that is dispatched to a route from having a
path of the backend. -/
theorem backendPath_eq_none_iff {method path : Text} {route : Route}
    (h : Dispatch.find method path = .route route) :
    route.backendPath path = none ↔
      ∃ b ∈ bindings route.pattern (segmentsOf path), isUnsafe b.2 := by
  have hmirrors := Route.mirrors_of_table (Dispatch.find_eq_route h).1
  rw [hmirrors.backendPath, Option.map_eq_none_iff, Option.eq_none_iff_forall_ne_some]
  simp only [isUnsafe_iff]
  constructor
  · intro hnone
    by_contra hsafe
    push Not at hsafe
    exact hnone _ (Route.captureSegments_eq_some_iff.mpr ⟨Dispatch.fits_of_find h, rfl, hsafe⟩)
  · rintro ⟨b, hb, hmisleads⟩ captured hcaptured
    obtain ⟨-, -, hsafe⟩ := Route.captureSegments_eq_some_iff.mp hcaptured
    exact hsafe b hb hmisleads

/-- **The handling of a request ends in one of these ways.** -/
theorem exists_ends (g : Gateway) (request : Request) : ∃ e, g.Ends request e := by
  cases hfind : Dispatch.find request.method request.target.pathText with
  | unknownPath => exact ⟨_, .unknownPath (Or.inl hfind)⟩
  | noPath => exact ⟨_, .unknownPath (Or.inr hfind)⟩
  | health => exact ⟨_, .healthy hfind⟩
  | wrongMethod allowed => exact ⟨_, .wrongMethod hfind⟩
  | route route =>
      cases hcaller : (g.verifier request.fields).outcome with
      | error f => exact ⟨_, .unauthenticated hfind hcaller⟩
      | ok caller =>
          cases hpath : route.backendPath request.target.pathText with
          | none =>
              exact ⟨_, .refusedPath hfind hcaller ((backendPath_eq_none_iff hfind).mp hpath)⟩
          | some path =>
              cases hread : Inbound.read g.bodyLimit request route.verb.method with
              | error r => exact ⟨_, .refusedBody hfind hcaller hpath hread⟩
              | ok inbound =>
                  cases hbuild : g.backend.build inbound path route.verb.method (some caller) with
                  | error f => exact ⟨_, .unbuilt hfind hcaller hpath hread hbuild⟩
                  | ok out =>
                      cases hanswer : out.answer g.network with
                      | error e => exact ⟨_, .unanswered
                          ⟨hfind, hcaller, hpath, hread, hbuild⟩ hanswer⟩
                      | ok reply => exact ⟨_, .relayed
                          ⟨hfind, hcaller, hpath, hread, hbuild⟩ hanswer⟩

/-! ## What is logged -/

section Logged

variable {g : Gateway} {request : Request}

theorem events_handle_of_failure {route : Route} {f : AuthFailure}
    (hfind : Dispatch.find request.method request.target.pathText = .route route)
    (hf : (g.verifier request.fields).outcome = .error f) :
    (g.handle request).journal.events = [f.event] := by
  obtain ⟨-, -, -, hasked⟩ := journal_asked (g.verifier request.fields).asked.toList
  unfold handle serve
  rw [hfind]
  simp only [hf, Journal.events_append, hasked]
  rfl

/-- Where the caller is known, the rest of the handling decides what is answered
and logged. -/
theorem handle_of_caller {route : Route} {caller : Caller}
    (hfind : Dispatch.find request.method request.target.pathText = .route route)
    (hcaller : (g.verifier request.fields).outcome = .ok caller) :
    (g.handle request).result.status = (g.receive route caller request).result.status ∧
      (g.handle request).journal.events =
        (g.receive route caller request).journal.events := by
  obtain ⟨-, -, -, hasked⟩ := journal_asked (g.verifier request.fields).asked.toList
  unfold handle serve
  rw [hfind]
  simp only [hcaller, status_finish, Journal.events_append, hasked]
  exact ⟨trivial, rfl⟩

theorem receive_of_inbound {route : Route} {caller : Caller} {path : Text} {inbound : Inbound}
    (hpath : route.backendPath request.target.pathText = some path)
    (hread : Inbound.read g.bodyLimit request route.verb.method = .ok inbound) :
    g.receive route caller request = g.passOn route caller path inbound := by
  unfold receive
  simp only [hpath, hread]

/-- What a request logs that is passed on. -/
theorem events_passOn (g : Gateway) (route : Route) (caller : Caller) (path : Text)
    (inbound : Inbound) :
    (g.passOn route caller path inbound).journal.events = proxying route caller path ::
      (g.backend.forward g.network inbound path route.verb.method (some caller)).journal.events :=
  rfl

/-- A request that is dispatched to no route logs nothing. -/
theorem events_handle_of_no_route
    (h : ∀ route, Dispatch.find request.method request.target.pathText ≠ .route route) :
    (g.handle request).journal.events = [] := by
  unfold handle
  cases hfind : Dispatch.find request.method request.target.pathText with
  | route route => exact absurd hfind (h route)
  | _ => rfl

/-- An admitted request has its call logged. -/
theorem Admits.events {route : Route} {caller : Caller} {path : Text} {inbound : Inbound}
    {out : Outgoing} (h : g.Admits request route caller path inbound out) :
    (g.handle request).journal.events =
      [proxying route caller path, Backend.forwarding out (some caller),
        g.backend.outcomeEvent out
          (g.backend.forward g.network inbound path route.verb.method (some caller)).result] := by
  rw [(handle_of_caller h.dispatched h.verified).2, receive_of_inbound h.fits h.taken,
    events_passOn, Backend.events_forward_of_ok h.built]

/-- The answer has the status of the ending. -/
theorem Ends.status {e : Ending} (h : g.Ends request e) :
    (g.handle request).result.status = e.status := by
  cases h with
  | unknownPath hfind =>
      unfold handle
      rcases hfind with hfind | hfind
      · rw [hfind]
        rfl
      · rw [hfind]
        exact status_finish ..
  | wrongMethod hfind =>
      unfold handle
      rw [hfind]
      exact status_finish ..
  | healthy hfind =>
      unfold handle
      rw [hfind]
      exact status_finish ..
  | unauthenticated hfind hf =>
      rw [result_handle_of_failure hfind hf]
      exact status_finish ..
  | refusedPath hfind hcaller hunsafe =>
      rw [(handle_of_caller hfind hcaller).1, receive, (backendPath_eq_none_iff hfind).mpr hunsafe]
      rfl
  | @refusedBody route caller path r hfind hcaller hpath hread =>
      rw [(handle_of_caller hfind hcaller).1, receive]
      simp only [hpath, hread]
      rfl
  | unbuilt hfind hcaller hpath hread hbuild =>
      rw [(handle_of_caller hfind hcaller).1, receive_of_inbound hpath hread, passOn,
        Backend.forward, hbuild]
      rfl
  | unanswered hadmits hanswer =>
      rw [hadmits.result_of_error (Backend.forward_of_error hadmits.built hanswer)]
      exact status_finish ..
  | relayed hadmits hanswer =>
      rw [hadmits.result_of_ok
        ((Backend.forward_eq_ok_iff hadmits.built).mpr ⟨_, hanswer, rfl⟩)]
      exact status_finish ..

theorem Ends.ne_unbuilt_timeout {e : Ending} (h : g.Ends request e) :
    e ≠ .unbuilt .timeout := by
  rintro rfl
  cases h with
  | unbuilt _ _ _ _ hbuild => exact Backend.build_ne_timeout _ _ _ _ _ hbuild

/-- The log is that of the ending. -/
theorem Ends.logs {e : Ending} (h : g.Ends request e) :
    e.Logs g.backend (g.handle request).journal.events := by
  cases h with
  | unknownPath hfind =>
      refine events_handle_of_no_route fun route hroute => ?_
      rcases hfind with hfind | hfind <;> cases hfind.symm.trans hroute
  | wrongMethod hfind =>
      exact events_handle_of_no_route fun route hroute => nomatch hfind.symm.trans hroute
  | healthy hfind =>
      exact events_handle_of_no_route fun route hroute => nomatch hfind.symm.trans hroute
  | unauthenticated hfind hf => exact events_handle_of_failure hfind hf
  | refusedPath hfind hcaller hunsafe =>
      rw [(handle_of_caller hfind hcaller).2, receive, (backendPath_eq_none_iff hfind).mpr hunsafe]
      exact ⟨_, _, rfl⟩
  | refusedBody hfind hcaller hpath hread =>
      rw [(handle_of_caller hfind hcaller).2, receive]
      simp only [hpath, hread]
      rfl
  | unbuilt hfind hcaller hpath hread hbuild =>
      rw [(handle_of_caller hfind hcaller).2, receive_of_inbound hpath hread, events_passOn,
        Backend.events_forward_of_error hbuild]
      exact ⟨_, _, _, rfl⟩
  | unanswered hadmits hanswer =>
      rw [hadmits.events, Backend.forward_of_error hadmits.built hanswer]
      exact ⟨_, _, _, _, rfl⟩
  | relayed hadmits hanswer =>
      rw [hadmits.events, (Backend.forward_eq_ok_iff hadmits.built).mpr ⟨_, hanswer, rfl⟩]
      exact ⟨_, _, _, _, rfl⟩

end Logged

/-- **Every failure of the gateway's own raises one alarm, and nothing else
raises any.** Whatever the verifier says and the backend answers, the handling of
a request comes to an end, and the answer has the status of that end. There is
one alarm if the answer is the gateway's own and has a status of the server, or
if the path was refused; it warns of a path that was refused and of a backend
that took too long, and tells of an error otherwise. There is no alarm in any
other case. A call is announced once if it is sent, and what is logged next is
what has come of it; that is so for every call, whoever makes it. -/
theorem failures_raise_one_alarm (g : Gateway) (request : Request) :
    (∃ e, g.Ends request e) ∧
    (∀ e, g.Ends request e →
      (g.handle request).result.status = e.status ∧
      (e.IsFailure → ∃ alarm, (g.handle request).journal.alarms = [alarm] ∧
        alarm.level = e.gravity) ∧
      (¬ e.IsFailure → (g.handle request).journal.alarms = []) ∧
      (g.handle request).journal.events.countP Backend.announces =
        (if e.wasSent then 1 else 0) ∧
      e.Logs g.backend (g.handle request).journal.events) ∧
    ∀ network inbound path method caller,
      (∀ f, g.backend.build inbound path method caller = .error f →
        (g.backend.forward network inbound path method caller).result = .error f ∧
        (g.backend.forward network inbound path method caller).journal.events =
          [Backend.unbuildable method path f]) ∧
      ∀ out, g.backend.build inbound path method caller = .ok out →
        (g.backend.forward network inbound path method caller).journal.events =
          [Backend.forwarding out caller, g.backend.outcomeEvent out
            (g.backend.forward network inbound path method caller).result] := by
  refine ⟨exists_ends g request, ?_, ?_⟩
  · intro e h
    obtain ⟨halarm, hnone⟩ := h.logs.alarms h.ne_unbuilt_timeout
    exact ⟨h.status, halarm, hnone, h.logs.announcements, h.logs⟩
  · intro network inbound path method caller
    refine ⟨fun f hbuild => ⟨?_, Backend.events_forward_of_error hbuild⟩,
      fun out hbuild => Backend.events_forward_of_ok hbuild⟩
    rw [Backend.forward, hbuild]

/-- Of a backend that stays silent there is one warning. A backend that says by
itself that it is out of order raises no alarm. -/
theorem silence_raises_one_alarm :
    let request : Request := ⟨Method.get, .path "/jobs".toList none, [], ⟨[], none⟩⟩
    let gateway (contact : Contact) : Gateway :=
      ⟨⟨"http://127.0.0.1:55551".toList, ⟨30000⟩⟩, 16, .fixed (.ok (.ofId "u1".toList)),
        fun _ => contact⟩
    let busy := octets "HTTP/1.1 503 Service Unavailable\r\ncontent-length: 2\r\n\r\nno"
    ((gateway .silent).handle request).journal.alarms.map Event.level = [.warn] ∧
      ((gateway (.answers busy)).handle request).result.status = ⟨503⟩ ∧
      ((gateway (.answers busy)).handle request).journal.alarms = [] := by
  intro request gateway busy
  have hfind : Dispatch.find request.method request.target.pathText =
      .route (Route.same "list_jobs" .get "jobs") := by decide +kernel
  have hbuilt : ((gateway .silent).backend.build ⟨[], none, []⟩ "jobs".toList Method.get
      (some (.ofId "u1".toList))).toOption.any (fun out =>
        out.answer (fun _ => .silent) = .error (.timeout out.url) ∧
        out.answer (fun _ => .answers busy) =
          .ok ⟨⟨503⟩, [⟨FieldName.contentLength, octets "2"⟩], octets "no"⟩) = true := by
    decide +kernel
  obtain ⟨out, hout, hanswers⟩ := (Option.any_eq_true ..).mp hbuilt
  obtain ⟨hsilent, hbusy⟩ := of_decide_eq_true hanswers
  have hadmits (contact : Contact) : (gateway contact).Admits request
      (Route.same "list_jobs" .get "jobs") (.ofId "u1".toList) "jobs".toList ⟨[], none, []⟩ out :=
    ⟨hfind, rfl, by decide +kernel, by rfl, Outcome.toOption_eq_some_iff.mp hout⟩
  refine ⟨?_, ?_⟩
  · obtain ⟨-, hends, -⟩ := failures_raise_one_alarm (gateway .silent) request
    obtain ⟨-, hfailure, -⟩ := hends _ (.unanswered (hadmits .silent) hsilent)
    obtain ⟨alarm, hone, hlevel⟩ := hfailure (Ending.isFailure_iff.mpr (by simp))
    rw [hone, List.map_singleton, hlevel]
    rfl
  · obtain ⟨-, hends, -⟩ := failures_raise_one_alarm (gateway (.answers busy)) request
    obtain ⟨hstatus, -, hnone, -⟩ := hends _ (.relayed (hadmits (.answers busy)) hbusy)
    refine ⟨hstatus, hnone ?_⟩
    rintro (⟨hown, -⟩ | hrefused)
    · exact hown _ rfl
    · cases hrefused

end Gateway

end JobsGateway
