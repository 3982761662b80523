import JobsGateway.Backend.Call
import JobsGateway.Proofs.Client.Answer

/-!
# What comes of a call

A call ends as its one request does. What is whole is passed on, time that ran out
is told apart, and anything else is a failure of transport.
-/

namespace JobsGateway

namespace Backend

namespace Failure

theorem ofClient_eq_timeout_iff {e : ClientError} :
    ofClient e = .timeout ↔ e.isTimeout = true := by
  unfold ofClient
  cases e.isTimeout <;> simp

theorem ofClient_cases (e : ClientError) :
    ofClient e = .timeout ∨ ∃ cause, ofClient e = .transport cause := by
  unfold ofClient
  cases e.isTimeout with
  | true => exact Or.inl rfl
  | false => exact Or.inr ⟨_, rfl⟩

end Failure

/-- How a call ends, from the request that is built and the answer to it. -/
theorem result_forward (b : Backend) (network : Network) (inbound : Inbound)
    (path method : Text) (caller : Option Caller) :
    (b.forward network inbound path method caller).result =
      (b.build inbound path method caller).bind fun r =>
        ((r.answer network).map relay).mapError Failure.ofClient := by
  unfold forward exchange Outgoing.answer
  cases b.build inbound path method caller with
  | error f => rfl
  | ok r =>
      dsimp only
      show _ = (((r.send network).outcome.bind Reply.whole).map relay).mapError Failure.ofClient
      cases (r.send network).outcome.bind Reply.whole <;> rfl

/-- Why a request cannot be built: it has no target, the caller cannot be told,
or the target has no host. -/
theorem build_error_cases {b : Backend} {inbound : Inbound} {path method : Text}
    {caller : Option Caller} {f : Failure}
    (h : b.build inbound path method caller = .error f) :
    (∃ e, b.target path inbound.query = .error e ∧ f = .invalidUrl e) ∨
      (∃ field, Crossing.outbound inbound.fields caller = .error field ∧
        f = .unsendable field) ∨
      ∃ url, f = .ofClient (.notAllowed url) := by
  rcases Outcome.bind_eq_error_iff.mp h with h | ⟨url, -, h⟩
  · obtain ⟨e, he, rfl⟩ := Outcome.mapError_eq_error_iff.mp h
    exact Or.inl ⟨e, he, rfl⟩
  · rcases Outcome.bind_eq_error_iff.mp h with h | ⟨fields, -, h⟩
    · obtain ⟨field, hfield, rfl⟩ := Outcome.mapError_eq_error_iff.mp h
      exact Or.inr (Or.inl ⟨field, hfield, rfl⟩)
    · obtain ⟨u, -, rfl⟩ := Outcome.mapError_eq_error_iff.mp h
      exact Or.inr (Or.inr ⟨u, rfl⟩)

/-- A request that cannot be built does not run out of time. -/
theorem build_ne_timeout (b : Backend) (inbound : Inbound) (path method : Text)
    (caller : Option Caller) : b.build inbound path method caller ≠ .error .timeout := by
  intro h
  rcases build_error_cases h with ⟨e, -, h⟩ | ⟨field, -, h⟩ | ⟨url, h⟩ <;> cases h

/-- Only a target that is no URL makes a request that is none. -/
theorem target_of_build_invalidUrl {b : Backend} {inbound : Inbound} {path method : Text}
    {caller : Option Caller} {e : UrlError}
    (h : b.build inbound path method caller = .error (.invalidUrl e)) :
    b.target path inbound.query = .error e := by
  rcases build_error_cases h with ⟨e', he', h⟩ | ⟨field, -, h⟩ | ⟨url, h⟩
  · cases h
    exact he'
  · cases h
  · cases h

/-- The answer of a peer never makes a URL invalid. -/
theorem target_of_forward_invalidUrl {b : Backend} {network : Network} {inbound : Inbound}
    {path method : Text} {caller : Option Caller} {e : UrlError}
    (h : (b.forward network inbound path method caller).result = .error (.invalidUrl e)) :
    b.target path inbound.query = .error e := by
  rw [result_forward] at h
  rcases Outcome.bind_eq_error_iff.mp h with h | ⟨r, -, h⟩
  · exact target_of_build_invalidUrl h
  · obtain ⟨fault, -, hfault⟩ := Outcome.mapError_eq_error_iff.mp h
    rcases Failure.ofClient_cases fault with htimeout | ⟨cause, hcause⟩
    · rw [htimeout] at hfault
      cases hfault
    · rw [hcause] at hfault
      cases hfault

section Built

variable {b : Backend} {network : Network} {inbound : Inbound} {path method : Text}
  {caller : Option Caller} {out : Outgoing}

theorem forward_eq_ok_iff (h : b.build inbound path method caller = .ok out)
    {response : Response} :
    (b.forward network inbound path method caller).result = .ok response ↔
      ∃ reply, out.answer network = .ok reply ∧ response = relay reply := by
  rw [result_forward, h]
  show ((out.answer network).map relay).mapError Failure.ofClient = _ ↔ _
  rw [Outcome.mapError_eq_ok_iff, Outcome.map_eq_ok_iff]
  constructor
  · rintro ⟨reply, hreply, rfl⟩
    exact ⟨reply, hreply, rfl⟩
  · rintro ⟨reply, hreply, rfl⟩
    exact ⟨reply, hreply, rfl⟩

theorem forward_of_error (h : b.build inbound path method caller = .ok out) {e : ClientError}
    (he : out.answer network = .error e) :
    (b.forward network inbound path method caller).result = .error (.ofClient e) := by
  rw [result_forward, h]
  show ((out.answer network).map relay).mapError Failure.ofClient = _
  rw [he]
  rfl

theorem forward_eq_timeout_iff (h : b.build inbound path method caller = .ok out) :
    (b.forward network inbound path method caller).result = .error .timeout ↔
      ∃ e, out.answer network = .error e ∧ e.isTimeout = true := by
  cases hanswer : out.answer network with
  | ok reply =>
      rw [(forward_eq_ok_iff h).mpr ⟨reply, hanswer, rfl⟩]
      simp
  | error e =>
      rw [forward_of_error h hanswer]
      simp only [Except.error.injEq, Failure.ofClient_eq_timeout_iff, exists_eq_left']

/-- A call has an answer, or it runs out of time, or its transport fails. -/
theorem forward_cases (h : b.build inbound path method caller = .ok out) (network : Network) :
    (∃ response, (b.forward network inbound path method caller).result = .ok response) ∨
      (b.forward network inbound path method caller).result = .error .timeout ∨
        ∃ cause, (b.forward network inbound path method caller).result =
          .error (.transport cause) := by
  cases hanswer : out.answer network with
  | ok reply => exact Or.inl ⟨_, (forward_eq_ok_iff h).mpr ⟨reply, hanswer, rfl⟩⟩
  | error e =>
      rw [forward_of_error h hanswer]
      rcases Failure.ofClient_cases e with htimeout | ⟨cause, hcause⟩
      · exact Or.inr (Or.inl (by rw [htimeout]))
      · exact Or.inr (Or.inr ⟨cause, by rw [hcause]⟩)

end Built

end Backend

end JobsGateway
