import JobsGateway.Proofs.Client.Delivery
import JobsGateway.Proofs.Client.Settled

/-!
# What comes of a request

A request has an answer exactly if it may be sent and its peer sends a whole
reply. It runs out of time exactly if it gets lost, or if the peer falls silent
before its octets have settled what comes of the request. A body that is not
whole fails for its own fault alone, whatever was read before it.
-/

namespace JobsGateway

namespace Outgoing

/-- The request may be sent: its URL is one for HTTP and can be asked for. -/
def MayBeSent (r : Outgoing) : Prop :=
  r.url.isWeb = true ∧ isAskable r.url = true

/-- The whole reply to a request, or why there is none. -/
def answer (r : Outgoing) (network : Network) : Except ClientError Response :=
  (r.send network).outcome.bind Reply.whole

theorem send_of_mayBeSent {r : Outgoing} (h : r.MayBeSent) (network : Network) :
    r.send network = r.meets 0 (network r.url) := by
  rw [send_eq_ask, Client.ask, h.1, h.2]
  rfl

/-- Without a way to send it, a request fails before the network is asked. -/
theorem send_of_not_mayBeSent {r : Outgoing} (h : ¬ r.MayBeSent) (network : Network) :
    ∃ e, r.send network = ⟨0, #[], .error e⟩ ∧ e.isTimeout = false := by
  rw [send_eq_ask]
  unfold Client.ask
  cases hweb : r.url.isWeb with
  | false => exact ⟨_, rfl, rfl⟩
  | true =>
      cases hask : isAskable r.url with
      | false => exact ⟨_, rfl, rfl⟩
      | true => exact absurd ⟨hweb, hask⟩ h

/-- What the octets of a peer lead to. -/
def answerTo (r : Outgoing) (octets : Bytes) (parting : Parting) : Except ClientError Response :=
  ((Reply.read parting r.method octets).mapError (parting.headError r.url)).bind Reply.whole

/-- What comes of a request that may be sent, by what the network does. -/
theorem answer_of_mayBeSent {r : Outgoing} (h : r.MayBeSent) (network : Network) :
    r.answer network = match network r.url with
      | .unreachable => .error (.unreachable r.url)
      | .lost => .error (.timeout r.url)
      | .refused => .error (.refused r.url)
      | .sends octets parting => r.answerTo octets parting := by
  rw [answer, send_of_mayBeSent h]
  cases network r.url <;> rfl

/-- A reply is read exactly if the peer sends one. -/
theorem outcome_send_eq_ok_iff {r : Outgoing} {network : Network} {reply : Reply} :
    (r.send network).outcome = .ok reply ↔
      r.MayBeSent ∧ ∃ octets parting, network r.url = .sends octets parting ∧
        Reply.read parting r.method octets = .ok reply := by
  by_cases hsend : r.MayBeSent
  · rw [send_of_mayBeSent hsend, and_iff_right hsend]
    cases network r.url with
    | sends octets parting =>
        simp only [meets, Outcome.mapError_eq_ok_iff, Contact.sends.injEq]
        constructor
        · intro hread
          exact ⟨octets, parting, ⟨rfl, rfl⟩, hread⟩
        · rintro ⟨octets, parting, ⟨rfl, rfl⟩, hread⟩
          exact hread
    | _ => simp [meets]
  · obtain ⟨e, herror, -⟩ := send_of_not_mayBeSent hsend network
    rw [herror]
    exact iff_of_false (by simp) fun h => hsend h.1

/-- **There is an answer exactly if the peer sends a whole reply.** -/
theorem answer_eq_ok_iff {r : Outgoing} {network : Network} {response : Response} :
    r.answer network = .ok response ↔
      r.MayBeSent ∧ ∃ octets parting, network r.url = .sends octets parting ∧
        Reply.Received parting r.method octets response := by
  have hanswer : r.answer network = .ok response ↔
      ∃ reply, (r.send network).outcome = .ok reply ∧ reply.whole = .ok response :=
    Outcome.bind_eq_ok_iff
  simp only [hanswer, outcome_send_eq_ok_iff, ← Reply.exists_read_iff_received]
  constructor
  · rintro ⟨reply, ⟨hsend, octets, parting, hsends, hread⟩, hwhole⟩
    exact ⟨hsend, octets, parting, hsends, reply, hread, hwhole⟩
  · rintro ⟨hsend, octets, parting, hsends, reply, hread, hwhole⟩
    exact ⟨reply, ⟨hsend, octets, parting, hsends, hread⟩, hwhole⟩

/-! ## Running out of time -/

/-- The octets of a peer settle what comes of a request: whatever it sends after
them, and however it leaves off, the request comes to the same end. -/
def SettledBy (r : Outgoing) (octets : Bytes) : Prop :=
  ∃ result, ∀ more parting, r.answer (fun _ => .sends (octets ++ more) parting) = result

/-- Octets within a reply that the peer might go on to finish settle nothing. -/
theorem not_settledBy_of_received {r : Outgoing} (hsend : r.MayBeSent) {octets more : Bytes}
    {parting : Parting} {response : Response}
    (hreceived : Reply.Received parting r.method (octets ++ more) response)
    (hopen : ∀ response, ¬ Reply.Received .stalls r.method octets response) :
    ¬ r.SettledBy octets := by
  rintro ⟨result, hresult⟩
  -- If they settled it, they would be a whole reply themselves.
  have hlater : r.answer (fun _ => .sends (octets ++ more) parting) = .ok response :=
    answer_eq_ok_iff.mpr ⟨hsend, octets ++ more, parting, rfl, hreceived⟩
  have hnow : r.answer (fun _ => .stalls octets) = .ok response := by
    have hstalls := hresult [] .stalls
    rw [List.append_nil] at hstalls
    rw [hstalls, ← hresult more parting, hlater]
  obtain ⟨-, _, _, hsame, hwhole⟩ := answer_eq_ok_iff.mp hnow
  cases hsame
  exact hopen response hwhole

/-- The time runs out exactly where a peer stalls and the client waits for more. -/
theorem answerTo_eq_timeout_iff {r : Outgoing} {octets : Bytes} {parting : Parting} :
    (∃ e, r.answerTo octets parting = .error e ∧ e.isTimeout = true) ↔
      parting = .stalls ∧ Reply.Waits (Reply.read parting r.method octets) := by
  unfold answerTo
  cases hread : Reply.read parting r.method octets with
  | error fault =>
      show (∃ e, Except.error (parting.headError r.url fault) = Except.error e ∧ _) ↔ _
      constructor
      · rintro ⟨e, heq, he⟩
        cases heq
        cases fault with
        | closed =>
            cases parting with
            | stalls => exact ⟨rfl, Or.inl rfl⟩
            | _ => cases he
        | _ => cases he
      · rintro ⟨rfl, hclosed | ⟨reply, hreply, -⟩⟩
        · cases hclosed
          exact ⟨_, rfl, rfl⟩
        · cases hreply
  | ok reply =>
      show (∃ e, reply.whole = .error e ∧ _) ↔ _
      constructor
      · rintro ⟨e, heq, he⟩
        have hlate : reply.body = .error .late := by
          unfold Reply.whole at heq
          split at heq
          · cases heq
          · rename_i fault hbody
            cases heq
            cases fault with
            | late => exact hbody
            | _ => cases he
        obtain ⟨text, rest, head, f, -, -, -, rfl⟩ := Reply.read_eq_ok_iff.mp hread
        exact ⟨Reply.stalls_of_readBody_late hlate, Or.inr ⟨_, rfl, hlate⟩⟩
      · rintro ⟨-, hclosed | ⟨reply', hreply, hlate⟩⟩
        · cases hclosed
        · cases hreply
          unfold Reply.whole
          rw [hlate]
          exact ⟨_, rfl, rfl⟩

/-- What a request that may be sent waits for is not settled. -/
theorem waits_iff_not_settledBy {r : Outgoing} (hsend : r.MayBeSent) {octets : Bytes} :
    Reply.Waits (Reply.read .stalls r.method octets) ↔ ¬ r.SettledBy octets := by
  have hanswer (more : Bytes) (parting : Parting) :
      r.answer (fun _ => .sends (octets ++ more) parting) = r.answerTo (octets ++ more) parting :=
    answer_of_mayBeSent hsend _
  constructor
  · rintro hwaits ⟨result, hresult⟩
    -- A peer that closes the connection leads to no such end.
    obtain ⟨e, hlate, he⟩ := answerTo_eq_timeout_iff.mpr ⟨rfl, hwaits⟩
    have hstalls := (hanswer [] .stalls).symm.trans (hresult [] .stalls)
    have hcloses := (hanswer [] .closes).symm.trans (hresult [] .closes)
    rw [List.append_nil] at hstalls hcloses
    obtain ⟨hends, -⟩ := answerTo_eq_timeout_iff.mp
      ⟨e, hcloses.trans (hstalls.symm.trans hlate), he⟩
    cases hends
  · intro hopen
    rcases Reply.settled_or_waits r.method octets with ⟨x, hx, hread⟩ | hwaits
    · refine absurd ?_ hopen
      cases x with
      | ok reply =>
          refine ⟨reply.whole, fun more parting => ?_⟩
          rw [hanswer, answerTo, hread]
          rfl
      | error fault =>
          refine ⟨.error (.badHead r.url fault), fun more parting => ?_⟩
          rw [hanswer, answerTo, hread]
          cases fault with
          | closed => exact absurd (Or.inl rfl) hx
          | _ => rfl
    · exact hwaits

/-- **A request runs out of time exactly if it gets lost, or if its peer stalls
before its octets have settled what comes of it.** -/
theorem answer_eq_timeout_iff {r : Outgoing} {network : Network} :
    (∃ e, r.answer network = .error e ∧ e.isTimeout = true) ↔
      r.MayBeSent ∧ (network r.url = .lost ∨
        ∃ octets, network r.url = .stalls octets ∧ ¬ r.SettledBy octets) := by
  by_cases hsend : r.MayBeSent
  · rw [answer_of_mayBeSent hsend, and_iff_right hsend]
    cases network r.url with
    | lost => exact iff_of_true ⟨_, rfl, rfl⟩ (Or.inl rfl)
    | unreachable => simp [ClientError.isTimeout]
    | refused => simp [ClientError.isTimeout]
    | sends octets parting =>
        dsimp only
        rw [answerTo_eq_timeout_iff]
        constructor
        · rintro ⟨rfl, hwaits⟩
          exact Or.inr ⟨octets, rfl, (waits_iff_not_settledBy hsend).mp hwaits⟩
        · rintro (hlost | ⟨octets, hstalls, hopen⟩)
          · cases hlost
          · cases hstalls
            exact ⟨rfl, (waits_iff_not_settledBy hsend).mpr hopen⟩
  · obtain ⟨e, herror, hother⟩ := send_of_not_mayBeSent hsend network
    refine iff_of_false ?_ fun h => hsend h.1
    rintro ⟨e', h, he'⟩
    rw [answer, herror] at h
    cases h
    rw [hother] at he'
    cases he'

/-- **A body that is not whole fails for its own fault,** whatever the head was. -/
theorem answer_of_broken {r : Outgoing} {network : Network} (hsend : r.MayBeSent)
    {text rest : Bytes} {head : Reply.Head} {framing : Reply.Framing} {parting : Parting}
    {fault : BodyFault} (hsends : network r.url = .sends (text ++ rest) parting)
    (hhead : Reply.FinalHead text head) (hframes : Reply.Frames r.method head framing)
    (hbroken : Reply.readBody parting framing rest = .error fault) :
    r.answer network = .error (.badBody fault) := by
  have hread : Reply.read parting r.method (text ++ rest) =
      .ok ⟨head.status, head.fields, .error fault⟩ :=
    Reply.read_eq_ok_iff.mpr ⟨text, rest, head, framing, hhead, hframes, rfl, by rw [hbroken]⟩
  rw [answer_of_mayBeSent hsend, hsends]
  dsimp only
  rw [answerTo, hread]
  rfl

end Outgoing

end JobsGateway
