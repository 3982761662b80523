import JobsGateway.Proofs.Client.Number
import JobsGateway.Proofs.Gateway.Relay

/-!
# The length that an answer tells

What the gateway answers by itself tells no length, and goes out with that of
its body. A reply of the backend goes out with what it told. If that framed the
body, it is right as soon as it is one number. If a transfer coding framed the
body, nobody looked at the length: the coding stays behind, the length goes out.
-/

namespace JobsGateway

/-- The lengths that a response tells, each as a number if it is one. -/
def Response.lengths (r : Response) : List (Option Nat) :=
  (r.fields.values FieldName.contentLength).map fun v => Text.natural? 10 (Reply.charsOf v)

/-- A response tells no length, or only the number of octets of its body. -/
def Response.TellsLength (r : Response) : Prop :=
  r.lengths = [] ∨ r.lengths = [some r.body.length]

instance (r : Response) : Decidable r.TellsLength :=
  inferInstanceAs (Decidable (r.lengths = [] ∨ r.lengths = [some r.body.length]))

/-- A reply tells no length or one number. Where it names a transfer coding, the
number is that of the octets that were coded. -/
def Response.AgreesOnLength (reply : Response) : Prop :=
  reply.lengths = [] ∨ ∃ n, reply.lengths = [some n] ∧
    (reply.fields.values FieldName.transferEncoding ≠ [] → n = reply.body.length)

/-- The responses of a status have no body. -/
def Status.HasNoBody (s : Status) : Prop :=
  (100 ≤ s.code ∧ s.code < 200) ∨ s.code = 204 ∨ s.code = 304

instance (s : Status) : Decidable s.HasNoBody :=
  inferInstanceAs (Decidable ((100 ≤ s.code ∧ s.code < 200) ∨ s.code = 204 ∨ s.code = 304))

namespace Reply

/-! ## Replies that tell one length -/

/-- Where no transfer coding is named, the one number that is told frames the
body. -/
theorem Frames.eq_length {method : Text} {head : Head} {f : Framing} (h : Frames method head f)
    (hbody : isBodiless method head.status = false)
    (hplain : head.fields.values FieldName.transferEncoding = []) {v : Bytes} {n : Nat}
    (hvalues : head.fields.values FieldName.contentLength = [v])
    (hnumber : Text.natural? 10 (charsOf v) = some n) : f = .length n := by
  cases h with
  | none hbodiless =>
      rw [hbodiless] at hbody
      cases hbody
  | chunked _ hcoded => exact absurd hplain hcoded
  | coded _ hcoded => exact absurd hplain hcoded
  | untilClose _ _ hnone =>
      rw [hnone] at hvalues
      cases hvalues
  | @length m _ _ _ hall _ =>
      obtain ⟨hitems, htrim⟩ := items_of_number hnumber
      have hm : length? (trimBlanks v) = some m :=
        hall v (by simp [hvalues]) v (by simp [hitems])
      obtain ⟨hm, -⟩ := Option.filter_eq_some_iff.mp (htrim ▸ hm)
      rw [Option.some.inj (hnumber.symm.trans hm)]

theorem Carries.length_eq {n : Nat} {s body : Bytes} (h : Carries (.length n) s body) :
    body.length = n := by
  cases h with
  | length => rfl

/-- **A whole reply that may have a body tells its length truly exactly if it
agrees on it.** -/
theorem Received.tellsLength_iff {parting : Parting} {method : Text} {s : Bytes}
    {reply : Response} (h : Received parting method s reply)
    (hbody : isBodiless method reply.status = false) :
    reply.TellsLength ↔ reply.AgreesOnLength := by
  constructor
  · rintro (hnone | hone)
    · exact Or.inl hnone
    · exact Or.inr ⟨_, hone, fun _ => rfl⟩
  · rintro (hnone | ⟨n, hone, hcoded⟩)
    · exact Or.inl hnone
    · refine Or.inr (hone.trans ?_)
      by_cases hplain : reply.fields.values FieldName.transferEncoding = []
      · cases h with
        | mk hhead hframes hcarries hends =>
            obtain ⟨v, hvalues, hnumber⟩ := List.map_eq_singleton_iff.mp hone
            rw [hframes.eq_length hbody hplain hvalues hnumber] at hcarries
            rw [hcarries.length_eq]
      · rw [hcoded hplain]

end Reply

namespace Gateway

/-! ## Answers of the gateway -/

/-- The length that is added is the right one, and a length that is there
stays. -/
theorem tellsLength_finish_iff {method : Text} (h : method ≠ Method.head) (r : Response) :
    (finish method r).TellsLength ↔ r.TellsLength := by
  rw [finish, if_neg h, withLength]
  unfold Response.TellsLength Response.lengths
  dsimp only
  rw [Fields.values_putNew_self]
  by_cases hnone : r.fields.values FieldName.contentLength = []
  · simp [hnone, Reply.natural?_numberOctets]
  · rw [if_neg hnone]

theorem lengths_relay (reply : Response) : (Backend.relay reply).lengths = reply.lengths := by
  unfold Response.lengths
  show ((Fields.without reply.fields Crossing.connectionFields).values _).map _ = _
  rw [Fields.values_without, if_neg (by decide)]

theorem tellsLength_relay_iff (reply : Response) :
    (Backend.relay reply).TellsLength ↔ reply.TellsLength := by
  unfold Response.TellsLength
  rw [lengths_relay]
  rfl

/-- A known caller is answered with the reply to its request, or by the gateway
itself, which tells no length. -/
theorem result_receive (g : Gateway) (route : Route) (caller : Caller) (request : Request) :
    (g.receive route caller request).result.lengths = [] ∨
      ∃ path inbound out reply,
        route.backendPath request.target.pathText = some path ∧
        Inbound.read g.bodyLimit request route.verb.method = .ok inbound ∧
        g.backend.build inbound path route.verb.method (some caller) = .ok out ∧
        out.answer g.network = .ok reply ∧
        (g.receive route caller request).result = Backend.relay reply := by
  unfold receive
  cases hpath : route.backendPath request.target.pathText with
  | none => exact Or.inl rfl
  | some path =>
      cases hread : Inbound.read g.bodyLimit request route.verb.method with
      | error rejection =>
          left
          cases rejection <;> rfl
      | ok inbound =>
          simp only [passOn]
          cases hbuild : g.backend.build inbound path route.verb.method (some caller) with
          | error f =>
              left
              rw [Backend.result_forward, hbuild]
              rfl
          | ok out =>
              cases hanswer : out.answer g.network with
              | error e =>
                  left
                  rw [Backend.forward_of_error hbuild hanswer]
                  rfl
              | ok reply =>
                  refine Or.inr ⟨path, inbound, out, reply, rfl, rfl, hbuild, hanswer, ?_⟩
                  rw [(Backend.forward_eq_ok_iff hbuild).mpr ⟨reply, hanswer, rfl⟩]

/-- An answer of the gateway's own tells no length before it goes out. Any other
is the reply to the request that is admitted. -/
theorem result_handle (g : Gateway) (request : Request) :
    ∃ r, ((g.handle request).result = r ∨ (g.handle request).result = finish request.method r) ∧
      (r.lengths = [] ∨ ∃ route caller path inbound out reply,
        g.Admits request route caller path inbound out ∧ out.answer g.network = .ok reply ∧
          r = Backend.relay reply) := by
  unfold handle
  cases hfind : Dispatch.find request.method request.target.pathText with
  | unknownPath => exact ⟨_, Or.inl rfl, Or.inl rfl⟩
  | noPath => exact ⟨_, Or.inr rfl, Or.inl rfl⟩
  | health => exact ⟨_, Or.inr rfl, Or.inl rfl⟩
  | wrongMethod allowed => exact ⟨_, Or.inr rfl, Or.inl rfl⟩
  | route route =>
      refine ⟨_, Or.inr rfl, ?_⟩
      unfold serve
      cases hcaller : (g.verifier request.fields).outcome with
      | error f =>
          left
          simp only [hcaller]
          cases f <;> rfl
      | ok caller =>
          simp only [hcaller]
          refine (result_receive g route caller request).imp_right ?_
          rintro ⟨path, inbound, out, reply, hpath, hread, hbuild, hanswer, hresult⟩
          exact ⟨route, caller, path, inbound, out, reply,
            ⟨hfind, hcaller, hpath, hread, hbuild⟩, hanswer, hresult⟩

theorem Admits.result_of_answer {g : Gateway} {request : Request} {route : Route}
    {caller : Caller} {path : Text} {inbound : Inbound} {out : Outgoing}
    (h : g.Admits request route caller path inbound out) {reply : Response}
    (hanswer : out.answer g.network = .ok reply) :
    (g.handle request).result = finish request.method (Backend.relay reply) :=
  h.result_of_ok ((Backend.forward_eq_ok_iff h.built).mpr ⟨reply, hanswer, rfl⟩)

/-- The request for a route asks for no head alone and for no tunnel, so only its
status says that a reply has no body. -/
theorem Admits.isBodiless_eq_false {g : Gateway} {request : Request} {route : Route}
    {caller : Caller} {path : Text} {inbound : Inbound} {out : Outgoing}
    (h : g.Admits request route caller path inbound out) {status : Status}
    (hstatus : ¬ status.HasNoBody) : Reply.isBodiless out.method status = false := by
  have hverb : ∀ verb : Verb, verb.method ≠ Method.head ∧ verb.method ≠ Method.connect := by
    intro verb
    cases verb <;> decide
  obtain ⟨hhead, hconnect⟩ := hverb route.verb
  rw [← Backend.method_of_build h.built] at hhead hconnect
  unfold Status.HasNoBody at hstatus
  simp only [Reply.isBodiless, hhead, hconnect, decide_false, Bool.or_false, Bool.false_and]
  simp only [Bool.or_eq_false_iff, decide_eq_false_iff_not]
  omega

/-- **The length that an answer tells is the right one, exactly if the reply that
is passed on agrees on its length.** This is about answers that may have a body.
A reply does not agree on its length if it gives several, or something that is no
number, or beside a transfer coding another number than that of the octets that
were coded. Whatever the gateway answers without a reply tells its length
truly. -/
theorem handle_tellsLength_iff (g : Gateway) {request : Request}
    (hmethod : request.method ≠ Method.head)
    (hstatus : ¬ (g.handle request).result.status.HasNoBody) :
    (g.handle request).result.TellsLength ↔
      ∀ route caller path inbound out reply,
        g.Admits request route caller path inbound out → out.answer g.network = .ok reply →
          reply.AgreesOnLength := by
  have hreply : ∀ {route caller path inbound out reply},
      g.Admits request route caller path inbound out → out.answer g.network = .ok reply →
        ((g.handle request).result.TellsLength ↔ reply.AgreesOnLength) := by
    intro route caller path inbound out reply hadmits hanswer
    have hresult := hadmits.result_of_answer hanswer
    obtain ⟨-, octets, parting, -, hreceived⟩ := Outgoing.answer_eq_ok_iff.mp hanswer
    rw [hresult, status_finish] at hstatus
    rw [hresult, tellsLength_finish_iff hmethod, tellsLength_relay_iff,
      hreceived.tellsLength_iff (hadmits.isBodiless_eq_false hstatus)]
  constructor
  · intro h route caller path inbound out reply hadmits hanswer
    exact (hreply hadmits hanswer).mp h
  · intro h
    obtain ⟨r, hresult, hown | ⟨route, caller, path, inbound, out, reply, hadmits, hanswer, -⟩⟩ :=
      result_handle g request
    · have hr : r.TellsLength := Or.inl hown
      rcases hresult with hresult | hresult
      · rw [hresult]
        exact hr
      · rw [hresult]
        exact (tellsLength_finish_iff hmethod r).mpr hr
    · exact (hreply hadmits hanswer).mpr (h route caller path inbound out reply hadmits hanswer)

/-- A coded reply that tells the number of its octets goes out with it. -/
theorem coded_reply_may_tell_its_length :
    let text := octets "HTTP/1.1 200 OK\r\ncontent-length: 5\r\ntransfer-encoding: chunked\r\n" ++
      octets "\r\n5\r\nhello\r\n0\r\n\r\n"
    let g : Gateway := ⟨⟨"http://127.0.0.1:55551".toList, ⟨30000⟩⟩, 16,
      .fixed (.ok (.ofId "u1".toList)), fun _ => .answers text⟩
    let request : Request := ⟨Method.get, .path "/jobs".toList none, [], ⟨[], none⟩⟩
    (g.handle request).result.TellsLength ∧ (g.handle request).result.lengths = [some 5] := by
  intro text g request
  have hresult : (g.handle request).result =
      ⟨.ok, [⟨FieldName.contentLength, octets "5"⟩], octets "hello"⟩ := by decide +kernel
  refine ⟨(handle_tellsLength_iff g (by decide) ?_).mpr ?_, ?_⟩
  · rw [hresult]
    decide
  · intro route caller path inbound out reply hadmits hanswer
    have hfind : Dispatch.find request.method request.target.pathText =
        .route (Route.same "list_jobs" .get "jobs") := by decide +kernel
    have hmethod : out.method = Method.get := by
      cases hfind.symm.trans hadmits.dispatched
      exact Backend.method_of_build hadmits.built
    obtain ⟨-, _, _, hanswers, hreceived⟩ := Outgoing.answer_eq_ok_iff.mp hanswer
    cases hanswers
    rw [hmethod] at hreceived
    obtain ⟨r, hread, hr⟩ := Reply.exists_read_iff_received.mpr hreceived
    have honly : ((Reply.read .closes Method.get text).toOption.bind fun r => r.whole.toOption) =
        some ⟨.ok, [⟨FieldName.contentLength, octets "5"⟩,
          ⟨FieldName.transferEncoding, octets "chunked"⟩], octets "hello"⟩ := by decide +kernel
    rw [hread] at honly
    have heq := Outcome.toOption_eq_some_iff.mp honly
    rw [hr] at heq
    cases heq
    exact Or.inr ⟨5, by decide, fun _ => by decide⟩
  · rw [hresult]
    decide

/-- A coded reply of five octets that tells three goes out as five octets that
are told to be three. -/
theorem coded_reply_may_lie_about_its_length :
    ¬ ∀ (g : Gateway) (request : Request), request.method ≠ Method.head →
      ¬ (g.handle request).result.status.HasNoBody → (g.handle request).result.TellsLength := by
  intro h
  let g : Gateway := ⟨⟨"http://127.0.0.1:55551".toList, ⟨30000⟩⟩, 16,
    .fixed (.ok (.ofId "u1".toList)), fun _ => .answers (
      octets "HTTP/1.1 200 OK\r\ncontent-length: 3\r\ntransfer-encoding: chunked\r\n" ++
        octets "\r\n5\r\nhello\r\n0\r\n\r\n")⟩
  let request : Request := ⟨Method.get, .path "/jobs".toList none, [], ⟨[], none⟩⟩
  have hresult : (g.handle request).result =
      ⟨.ok, [⟨FieldName.contentLength, octets "3"⟩], octets "hello"⟩ := by decide +kernel
  have htells := h g request (by decide)
  rw [hresult] at htells
  exact absurd (htells (by decide)) (by decide)

end Gateway

end JobsGateway
