import JobsGateway.Proofs.Backend.Answer
import JobsGateway.Proofs.Gateway.Exchange

/-!
# All of a reply, or none of it

The gateway passes on a reply exactly if it is whole. If the backend stalls before
it has sent all that counts, the answer says that the time ran out; if its reply
cannot be had for another reason, the answer tells the cause. Nothing of a reply
that breaks off gets through, not even its status: what is told depends on the
fault alone.
-/

namespace JobsGateway

/-- The cause that is told where a body is not whole. -/
def BodyFault.cause (fault : BodyFault) : Text :=
  describe (ClientError.badBody fault).chain

/-- What a caller is told where the body of a reply is not whole: of one that was
late, that the time ran out, and of any other its fault. -/
def BodyFault.told (fault : BodyFault) : Response :=
  if fault = .late then .detail .gatewayTimeout "Aiden API timeout".toList
  else .detail .badGateway ("Aiden API unavailable: ".toList ++ fault.cause)

/-- A response to a method tells of a failure: it is a JSON object with the
sentence about it, or its head if the method is HEAD. -/
structure Response.Tells (r : Response) (method : Text) (s : Status) (sentence : Text) :
    Prop where
  status : r.status = s
  type : r.fields.values FieldName.contentType = [octets "application/json"]
  body : r.body = if method = Method.head then []
    else Utf8.encode (Json.object [("detail".toList, Json.string sentence)])

theorem Backend.Failure.response_ofClient_badBody (fault : BodyFault) :
    (Failure.ofClient (.badBody fault)).response = fault.told := by
  cases fault <;> rfl

namespace Gateway

theorem tells_finish (method : Text) (s : Status) (sentence : Text) :
    (finish method (.detail s sentence)).Tells method s sentence where
  status := status_finish ..
  type := values_finish_of_ne (by decide) ..
  body := body_finish ..

/-! ## What an admitted request is answered with -/

section Admitted

variable {g : Gateway} {request : Request} {route : Route} {caller : Caller} {path : Text}
  {inbound : Inbound} {out : Outgoing}

theorem Admits.result (h : g.Admits request route caller path inbound out) :
    (g.handle request).result =
      finish request.method (g.passOn route caller path inbound).result := by
  unfold handle serve receive
  rw [h.dispatched]
  simp only [h.verified, h.fits, h.taken]

theorem Admits.result_of_ok (h : g.Admits request route caller path inbound out)
    {response : Response}
    (hcall : (g.backend.forward g.network inbound path route.verb.method (some caller)).result =
      .ok response) :
    (g.handle request).result = finish request.method response := by
  rw [h.result, passOn, hcall]

theorem Admits.result_of_error (h : g.Admits request route caller path inbound out)
    {f : Backend.Failure}
    (hcall : (g.backend.forward g.network inbound path route.verb.method (some caller)).result =
      .error f) :
    (g.handle request).result = finish request.method f.response := by
  rw [h.result, passOn, hcall]

end Admitted

/-- A gateway that knows everybody as one caller admits a request for the list of
jobs, and it may send it on. -/
theorem exists_admits_list : ∃ out : Outgoing, out.MayBeSent ∧ out.method = Method.get ∧
    ∀ method ∈ [Method.get, Method.head], ∀ network : Network,
      (⟨⟨"http://127.0.0.1:55551".toList, ⟨30000⟩⟩, 16, .fixed (.ok (.ofId "u1".toList)),
        network⟩ : Gateway).Admits ⟨method, .path "/jobs".toList none, [], ⟨[], none⟩⟩
          (Route.same "list_jobs" .get "jobs") (.ofId "u1".toList) "jobs".toList
          ⟨[], none, []⟩ out := by
  let backend : Backend := ⟨"http://127.0.0.1:55551".toList, ⟨30000⟩⟩
  have hbuilt : (backend.build ⟨[], none, []⟩ "jobs".toList Method.get
      (some (.ofId "u1".toList))).toOption.any
        (fun r => r.url.isWeb && isAskable r.url) = true := by decide +kernel
  obtain ⟨out, hout, hgood⟩ := (Option.any_eq_true ..).mp hbuilt
  have hout := Outcome.toOption_eq_some_iff.mp hout
  have hfind : ∀ method ∈ [Method.get, Method.head],
      Dispatch.find method "/jobs".toList = .route (Route.same "list_jobs" .get "jobs") := by
    decide +kernel
  have hfits : (Route.same "list_jobs" .get "jobs").backendPath "/jobs".toList =
      some "jobs".toList := by decide +kernel
  refine ⟨out, Bool.and_eq_true_iff.mp hgood, Backend.method_of_build hout, ?_⟩
  intro method hmethod network
  exact ⟨hfind method hmethod, rfl, hfits, by rfl, hout⟩

/-- **All of a reply, or none of it.** A call has an answer exactly if its request
may be sent and the peer sends a whole reply, and then that reply is passed on.
It runs out of time exactly if the request gets lost, or if the peer stalls
before its octets have settled what comes of the request, as it does within a
reply that it might have gone on to finish. Any other end is a failure of
transport. A request that cannot be built fails whatever the network does. A
caller is told of time that ran out with status 504, and of any other failure
with status 502 and its cause. Where a body is not whole, the answer depends on
the fault of the body alone, whatever the head was. -/
theorem handle_relays_whole_replies (g : Gateway) :
    (∀ inbound path method caller out,
      g.backend.build inbound path method caller = .ok out →
      (∀ response,
        (g.backend.forward g.network inbound path method caller).result = .ok response ↔
          out.MayBeSent ∧ ∃ octets parting reply, g.network out.url = .sends octets parting ∧
            Reply.Received parting method octets reply ∧ response = Backend.relay reply) ∧
      ((g.backend.forward g.network inbound path method caller).result = .error .timeout ↔
        out.MayBeSent ∧ (g.network out.url = .lost ∨
          ∃ octets, g.network out.url = .stalls octets ∧ ¬ out.SettledBy octets)) ∧
      (∀ octets more parting reply, out.MayBeSent → g.network out.url = .stalls octets →
        Reply.Received parting method (octets ++ more) reply →
        (∀ reply, ¬ Reply.Received .stalls method octets reply) →
        (g.backend.forward g.network inbound path method caller).result = .error .timeout) ∧
      ((∃ response,
          (g.backend.forward g.network inbound path method caller).result = .ok response) ∨
        (g.backend.forward g.network inbound path method caller).result = .error .timeout ∨
        ∃ cause, (g.backend.forward g.network inbound path method caller).result =
          .error (.transport cause))) ∧
    (∀ inbound path method caller f,
      g.backend.build inbound path method caller = .error f →
      f ≠ .timeout ∧ ∀ network,
        (g.backend.forward network inbound path method caller).result = .error f) ∧
    (∀ request route caller path inbound out,
      g.Admits request route caller path inbound out → ∀ call,
      call = (g.backend.forward g.network inbound path route.verb.method (some caller)).result →
      (∀ response, call = .ok response →
        (g.handle request).result = finish request.method response) ∧
      (call = .error .timeout →
        (g.handle request).result.Tells request.method .gatewayTimeout
          "Aiden API timeout".toList) ∧
      (∀ cause, call = .error (.transport cause) →
        (g.handle request).result.Tells request.method .badGateway
          ("Aiden API unavailable: ".toList ++ cause)) ∧
      (∀ text rest parting head framing, out.MayBeSent →
        g.network out.url = .sends (text ++ rest) parting → Reply.FinalHead text head →
        Reply.Frames out.method head framing →
        (∀ reply, ¬ Reply.Received parting out.method (text ++ rest) reply) →
        ∃ fault, Reply.readBody parting framing rest = .error fault ∧
          (g.handle request).result = finish request.method fault.told)) := by
  refine ⟨?_, ?_, ?_⟩
  · intro inbound path method caller out hbuild
    have hmethod : out.method = method := Backend.method_of_build hbuild
    have htimeout : (g.backend.forward g.network inbound path method caller).result =
        .error .timeout ↔ _ :=
      (Backend.forward_eq_timeout_iff hbuild).trans Outgoing.answer_eq_timeout_iff
    refine ⟨?_, htimeout, ?_, Backend.forward_cases hbuild g.network⟩
    · intro response
      rw [Backend.forward_eq_ok_iff hbuild]
      constructor
      · rintro ⟨reply, hanswer, rfl⟩
        obtain ⟨hsend, octets, parting, hsends, hreceived⟩ := Outgoing.answer_eq_ok_iff.mp hanswer
        exact ⟨hsend, octets, parting, reply, hsends, hmethod ▸ hreceived, rfl⟩
      · rintro ⟨hsend, octets, parting, reply, hsends, hreceived, rfl⟩
        exact ⟨reply, Outgoing.answer_eq_ok_iff.mpr
          ⟨hsend, octets, parting, hsends, hmethod.symm ▸ hreceived⟩, rfl⟩
    · intro octets more parting reply hsend hstalls hreceived hnone
      rw [← hmethod] at hreceived hnone
      exact htimeout.mpr ⟨hsend, Or.inr
        ⟨octets, hstalls, Outgoing.not_settledBy_of_received hsend hreceived hnone⟩⟩
  · intro inbound path method caller f hbuild
    constructor
    · rintro rfl
      exact Backend.build_ne_timeout _ _ _ _ _ hbuild
    · intro network
      rw [Backend.result_forward, hbuild]
      rfl
  · rintro request route caller path inbound out hadmits call rfl
    refine ⟨?_, ?_, ?_, ?_⟩
    · intro response hcall
      exact hadmits.result_of_ok hcall
    · intro hcall
      rw [hadmits.result_of_error hcall]
      exact tells_finish ..
    · intro cause hcall
      rw [hadmits.result_of_error hcall]
      exact tells_finish ..
    · intro text rest parting head framing hsend hsends hhead hframes hbroken
      cases hbody : Reply.readBody parting framing rest with
      | ok body =>
          obtain ⟨hcarries, hcloses⟩ := Reply.readBody_eq_ok_iff.mp hbody
          exact absurd (.mk hhead hframes hcarries hcloses) (hbroken _)
      | error fault =>
          refine ⟨fault, rfl, ?_⟩
          have hanswer := Outgoing.answer_of_broken hsend hsends hhead hframes hbody
          rw [hadmits.result_of_error (Backend.forward_of_error hadmits.built hanswer),
            Backend.Failure.response_ofClient_badBody]

/-- A job list that breaks off is not passed on: the answer names the fault, or
tells of the time that ran out if its backend stalled, as it does if the backend
stayed silent. The whole list is passed on, even if the backend stalls after
it. -/
theorem broken_list_is_held_back :
    let request : Request := ⟨Method.get, .path "/jobs".toList none, [], ⟨[], none⟩⟩
    let gateway (contact : Contact) : Gateway :=
      ⟨⟨"http://127.0.0.1:55551".toList, ⟨30000⟩⟩, 16, .fixed (.ok (.ofId "u1".toList)),
        fun _ => contact⟩
    let head := octets "HTTP/1.1 200 OK\r\nx-a: 1\r\ncontent-length: 4\r\n\r\n"
    ((gateway (.answers (head ++ octets "[1"))).handle request).result =
        finish Method.get (.detail .badGateway
          ("Aiden API unavailable: ".toList ++ BodyFault.endOfBody.cause)) ∧
      ((gateway (.resets (head ++ octets "[1"))).handle request).result =
        finish Method.get (.detail .badGateway
          ("Aiden API unavailable: ".toList ++ BodyFault.reset.cause)) ∧
      ((gateway (.stalls (head ++ octets "[1"))).handle request).result.Tells Method.get
        .gatewayTimeout "Aiden API timeout".toList ∧
      ((gateway (.answers (head ++ octets "[12]"))).handle request).result.body =
        octets "[12]" ∧
      ((gateway (.stalls (head ++ octets "[12]"))).handle request).result.body =
        octets "[12]" ∧
      ((gateway .silent).handle request).result.Tells Method.get .gatewayTimeout
        "Aiden API timeout".toList := by
  intro request gateway head
  obtain ⟨out, hsend, hmethod, hadmits⟩ := exists_admits_list
  have hadmits (contact : Contact) := hadmits Method.get (by simp) fun _ => contact
  have hout := (hadmits .silent).built
  -- Half of the list is no reply, and all of it is one.
  let fields : Fields := [⟨"x-a".toList, octets "1"⟩, ⟨FieldName.contentLength, octets "4"⟩]
  have hopened : (Reply.readFinalHead (head ++ octets "[1").length
      (head ++ octets "[1")).toOption = some (⟨true, .ok, fields⟩, octets "[1") := by
    decide +kernel
  obtain ⟨text, hhead, htext⟩ := (Reply.readFinalHead_eq_ok_iff (Nat.le_refl _)).mp
    (Outcome.toOption_eq_some_iff.mp hopened)
  have hframing : (Reply.framing Method.get ⟨true, .ok, fields⟩).toOption = some (.length 4) := by
    decide +kernel
  have hframes := Reply.framing_eq_ok_iff.mp (Outcome.toOption_eq_some_iff.mp hframing)
  have hbody (parting : Parting) : Reply.readBody parting (.length 4) (octets "[1") =
      .error (parting.bodyFault .endOfBody) := by
    rw [Reply.readBody]
    exact if_pos (by decide)
  have hnone (parting : Parting) (reply : Response) :
      ¬ Reply.Received parting Method.get (head ++ octets "[1") reply := by
    intro hreceived
    have hhalf : Reply.read parting Method.get (head ++ octets "[1") =
        .ok ⟨.ok, fields, .error (parting.bodyFault .endOfBody)⟩ :=
      Reply.read_eq_ok_iff.mpr ⟨text, _, _, _, hhead, hframes, htext, by rw [hbody]⟩
    obtain ⟨r, hread, hwhole⟩ := Reply.exists_read_iff_received.mpr hreceived
    cases hhalf.symm.trans hread
    cases hwhole
  have hlist : ∀ parting ∈ [Parting.closes, .stalls],
      ((Reply.read parting Method.get (head ++ octets "[12]")).toOption.bind fun r =>
        r.whole.toOption) = some ⟨.ok, fields, octets "[12]"⟩ := by decide +kernel
  have hall (parting : Parting) (hp : parting ∈ [Parting.closes, .stalls]) :
      ∃ reply, Reply.Received parting Method.get (head ++ octets "[12]") reply ∧
        reply.body = octets "[12]" := by
    obtain ⟨r, hread, hwhole⟩ := Option.bind_eq_some_iff.mp (hlist parting hp)
    exact ⟨_, Reply.exists_read_iff_received.mp ⟨r, Outcome.toOption_eq_some_iff.mp hread,
      Outcome.toOption_eq_some_iff.mp hwhole⟩, rfl⟩
  have hbroken (parting : Parting) :
      ((gateway (.sends (head ++ octets "[1") parting)).handle request).result =
        finish Method.get (parting.bodyFault .endOfBody).told := by
    obtain ⟨-, -, h⟩ :=
      handle_relays_whole_replies (gateway (.sends (head ++ octets "[1") parting))
    obtain ⟨-, -, -, htold⟩ := h _ _ _ _ _ _ (hadmits _) _ rfl
    obtain ⟨fault, hfault, hresult⟩ := htold text _ parting _ _ hsend
      (congrArg (Contact.sends · parting) htext) hhead (hmethod.symm ▸ hframes)
      (fun reply => by rw [hmethod, ← htext]; exact hnone parting reply)
    cases (hbody parting).symm.trans hfault
    exact hresult
  have hrelayed (parting : Parting) (hp : parting ∈ [Parting.closes, .stalls]) :
      ((gateway (.sends (head ++ octets "[12]") parting)).handle request).result.body =
        octets "[12]" := by
    obtain ⟨hcall, -, h⟩ :=
      handle_relays_whole_replies (gateway (.sends (head ++ octets "[12]") parting))
    obtain ⟨hrelay, -⟩ := h _ _ _ _ _ _ (hadmits _) _ rfl
    obtain ⟨reply, hreceived, hbody⟩ := hall parting hp
    have hok := ((hcall _ _ _ _ _ hout).1 _).mpr ⟨hsend, _, _, reply, rfl, hreceived, rfl⟩
    rw [hrelay _ hok]
    exact hbody
  have hlate (octets' more : Bytes) (htext : octets' ++ more = head ++ octets "[12]")
      (hopen : ∀ reply, ¬ Reply.Received .stalls Method.get octets' reply) :
      ((gateway (.stalls octets')).handle request).result.Tells Method.get .gatewayTimeout
        "Aiden API timeout".toList := by
    obtain ⟨hcall, -, h⟩ := handle_relays_whole_replies (gateway (.stalls octets'))
    obtain ⟨-, htells, -⟩ := h _ _ _ _ _ _ (hadmits _) _ rfl
    obtain ⟨-, -, hstalls, -⟩ := hcall _ _ _ _ _ hout
    obtain ⟨reply, hreceived, -⟩ := hall .closes (by simp)
    exact htells (hstalls octets' more .closes reply hsend rfl (htext ▸ hreceived) hopen)
  refine ⟨hbroken .closes, hbroken .resets, ?_, hrelayed .closes (by simp),
    hrelayed .stalls (by simp), ?_⟩
  · exact hlate (head ++ octets "[1") (octets "2]") (by decide +kernel) (hnone .stalls)
  · refine hlate [] (head ++ octets "[12]") rfl fun reply hreceived => ?_
    have hnothing : (Reply.read .stalls Method.get []).toOption.isNone = true := by
      decide +kernel
    obtain ⟨r, hr, -⟩ := Reply.exists_read_iff_received.mpr hreceived
    rw [hr] at hnothing
    cases hnothing

end Gateway

end JobsGateway
