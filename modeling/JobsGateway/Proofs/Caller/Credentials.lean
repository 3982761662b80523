import JobsGateway.Backend.Crossing
import JobsGateway.Caller.Verifier
import JobsGateway.Proofs.Client.Wire
import JobsGateway.Proofs.Outcome
import JobsGateway.Url.Parser

/-!
# What the identity endpoint is told

The identity endpoint gets to see the caller's credentials, and nothing else of
the request. A request without credentials leads to no question at all. So two
requests with the same credentials lead to one and the same question, and come
to the same end.
-/

namespace JobsGateway

theorem Fields.values_map_mk (name other : Text) (values : List Bytes) :
    Fields.values (values.map (Field.mk name)) other = if name = other then values else [] := by
  induction values with
  | nil =>
      rw [ite_self]
      rfl
  | cons value values ih =>
      rw [List.map_cons, Fields.values_cons, ih]
      by_cases hname : name = other
      · rw [if_pos hname, if_pos hname, if_pos hname]
      · rw [if_neg hname, if_neg hname, if_neg hname]

/-- Every host accepts connections and reads what it is sent, whatever it sends
then. -/
def Network.Reads (network : Network) : Prop :=
  ∀ url, (network url).Accepts

namespace Verifier

/-! ## Credentials -/

/-- The fields identify a caller in some way. -/
def HasCredentials (fields : Fields) : Prop :=
  fields.values FieldName.authorization ≠ [] ∨ fields.values FieldName.cookie ≠ []

theorem values_credentials (fields : Fields) (name : Text) :
    (credentials fields).values name =
      if name = FieldName.authorization ∨ name = FieldName.cookie then fields.values name
      else [] := by
  have hapart : FieldName.authorization ≠ FieldName.cookie := by decide
  rw [credentials, Fields.values_append, Fields.values_map_mk, Fields.values_map_mk]
  by_cases hauthorization : FieldName.authorization = name
  · subst hauthorization
    rw [if_pos rfl, if_neg (Ne.symm hapart), if_pos (Or.inl rfl), List.append_nil]
  · by_cases hcookie : FieldName.cookie = name
    · subst hcookie
      rw [if_neg hapart, if_pos rfl, if_pos (Or.inr rfl), List.nil_append]
    · rw [if_neg hauthorization, if_neg hcookie, if_neg]
      · rfl
      · rintro (h | h)
        · exact hauthorization h.symm
        · exact hcookie h.symm

theorem credentials_ne_nil_iff (fields : Fields) :
    credentials fields ≠ [] ↔ HasCredentials fields := by
  simp only [credentials, HasCredentials, ne_eq, List.append_eq_nil_iff, List.map_eq_nil_iff,
    Decidable.not_and_iff_not_or_not]

theorem credentials_eq_nil {fields : Fields} (h : ¬ HasCredentials fields) :
    credentials fields = [] :=
  Decidable.not_not.mp fun hne => h ((credentials_ne_nil_iff fields).mp hne)

theorem credentials_congr {a b : Fields}
    (hauthorization : a.values FieldName.authorization = b.values FieldName.authorization)
    (hcookie : a.values FieldName.cookie = b.values FieldName.cookie) :
    credentials a = credentials b := by
  rw [credentials, credentials, hauthorization, hcookie]

/-! ## The question -/

/-- The request that the identity endpoint is asked with. -/
def question? (endpoint : Url) (fields : Fields) : Option Outgoing :=
  if credentials fields = [] then none
  else (Outgoing.build Method.get endpoint (credentials fields) none).toOption

theorem question?_eq_some_iff {endpoint : Url} {fields : Fields} {r : Outgoing} :
    question? endpoint fields = some r ↔
      HasCredentials fields ∧
        Outgoing.build Method.get endpoint (credentials fields) none = .ok r := by
  unfold question?
  by_cases hnone : credentials fields = []
  · rw [if_pos hnone]
    exact iff_of_false (by simp) fun h => (credentials_ne_nil_iff fields).mpr h.1 hnone
  · rw [if_neg hnone, Outcome.toOption_eq_some_iff,
      and_iff_right ((credentials_ne_nil_iff fields).mp hnone)]

theorem remote_of_no_credentials {fields : Fields} (h : ¬ HasCredentials fields)
    (network : Network) (endpoint : Url) :
    remote network endpoint fields = ⟨.error .noCredentials, #[]⟩ := by
  unfold remote
  exact if_pos (credentials_eq_nil h)

/-- Without a question there is no way to know the caller. -/
theorem remote_of_no_question {endpoint : Url} {fields : Fields} (h : HasCredentials fields)
    (hnone : question? endpoint fields = none) (network : Network) :
    ∃ cause, remote network endpoint fields = ⟨.error (.unavailable cause), #[]⟩ := by
  have hcredentials := (credentials_ne_nil_iff fields).mpr h
  rw [question?, if_neg hcredentials] at hnone
  unfold remote
  dsimp only
  rw [if_neg hcredentials]
  cases hbuild : Outgoing.build Method.get endpoint (credentials fields) none with
  | error url => exact ⟨_, rfl⟩
  | ok r =>
      rw [hbuild] at hnone
      cases hnone

/-- What comes of a question says who the caller is, or why that is not known. -/
def verdict : Except ClientError Reply → Except AuthFailure Caller
  | .ok reply => judge reply
  | .error e => .error (.unavailable e.headline)

/-- Where there is a question, what comes of it decides. -/
theorem remote_of_question {endpoint : Url} {fields : Fields} {r : Outgoing}
    (h : question? endpoint fields = some r) (network : Network) :
    remote network endpoint fields =
      ⟨verdict (r.send network).outcome, (r.send network).received⟩ := by
  obtain ⟨hwith, hbuild⟩ := question?_eq_some_iff.mp h
  unfold remote
  simp only [if_neg ((credentials_ne_nil_iff fields).mpr hwith), hbuild]
  rfl

/-- The endpoint is asked what is read of the question, if there is one. -/
theorem asked_remote (network : Network) (endpoint : Url) (fields : Fields) :
    (remote network endpoint fields).asked =
      (question? endpoint fields).elim #[] fun r => (r.send network).received := by
  cases hquestion : question? endpoint fields with
  | some r => rw [remote_of_question hquestion, Option.elim_some]
  | none =>
      by_cases h : HasCredentials fields
      · obtain ⟨cause, hremote⟩ := remote_of_no_question h hquestion network
        rw [hremote, Option.elim_none]
      · rw [remote_of_no_credentials h, Option.elim_none]

theorem mem_asked_remote {network : Network} {endpoint : Url} {fields : Fields} {d : Delivery} :
    d ∈ (remote network endpoint fields).asked ↔
      ∃ r, question? endpoint fields = some r ∧ r.Reaches network ∧ d = r.deliver := by
  rw [asked_remote]
  cases question? endpoint fields with
  | none => simp
  | some r => simp [Outgoing.mem_received_send]

end Verifier

/-- What an identity endpoint reads is a question about a caller: a GET request
without a body, with the caller's credentials and the three fields that say
nothing of the request. Credentials of the endpoint stand in only where the
caller has none of the kind. -/
structure Delivery.AsksAbout (d : Delivery) (endpoint : Url) (fields : Fields) : Prop where
  method : d.method = Method.get
  target : d.target = endpoint.path.text ++ endpoint.queryText
  body : d.body = []
  cookies : d.fields.values FieldName.cookie = fields.values FieldName.cookie
  authorization : d.fields.values FieldName.authorization =
    if fields.values FieldName.authorization = [] then
      (endpoint.userinfo?.map fun info => Outgoing.basic info.1 info.2).toList
    else fields.values FieldName.authorization
  host : d.fields.values FieldName.host = [Utf8.encode endpoint.hostText]
  accept : d.fields.values FieldName.accept = [octets "*/*"]
  others : ∀ name, name ∉ [FieldName.authorization, FieldName.cookie, FieldName.host,
    FieldName.accept] → d.fields.values name = []

namespace Verifier

theorem asksAbout_deliver {endpoint : Url} {fields : Fields} {r : Outgoing}
    (h : question? endpoint fields = some r) : r.deliver.AsksAbout endpoint fields := by
  obtain ⟨-, hbuild⟩ := question?_eq_some_iff.mp h
  obtain ⟨hmethod, hbody, -, htarget, -⟩ := Outgoing.build_eq_ok hbuild
  have hnone : ∀ name, name ≠ FieldName.authorization → name ≠ FieldName.cookie →
      (credentials fields).values name = [] := by
    intro name hauthorization hcookie
    rw [values_credentials, if_neg]
    rintro (h | h)
    · exact hauthorization h
    · exact hcookie h
  exact {
    method := hmethod
    target := htarget
    body := by
      show r.body.getD [] = []
      rw [hbody]
      rfl
    cookies := by
      rw [Outgoing.values_deliver_of_other hbuild (by decide), values_credentials,
        if_pos (Or.inr rfl)]
    authorization := by
      rw [Outgoing.values_authorization_deliver hbuild, values_credentials, if_pos (Or.inl rfl)]
    host := Outgoing.values_host_deliver hbuild (hnone _ (by decide) (by decide))
    accept := by
      rw [Outgoing.values_accept_deliver hbuild, if_pos (hnone _ (by decide) (by decide))]
    others := by
      intro name hname
      simp only [List.mem_cons, List.not_mem_nil, or_false, not_or] at hname
      obtain ⟨hauthorization, hcookie, hhost, haccept⟩ := hname
      by_cases hlength : name = FieldName.contentLength
      · -- There is no body that would have a length.
        subst hlength
        rw [Outgoing.values_contentLength_deliver hbuild (hnone _ hauthorization hcookie)]
        rfl
      · have hother : name ∉ clientFields := by
          simp [clientFields, hauthorization, haccept, hhost, hlength]
        rw [Outgoing.values_deliver_of_other hbuild hother, hnone name hauthorization hcookie] }

/-! ## Two requests with the same credentials -/

/-- What a host reads does not depend on what it answers. -/
theorem received_congr (r : Outgoing) {here there : Network} (hhere : here.Reads)
    (hthere : there.Reads) : (r.send here).received = (r.send there).received := by
  obtain ⟨octets, parting, hsends⟩ := hhere r.url
  obtain ⟨octets', parting', hsends'⟩ := hthere r.url
  rw [Outgoing.send_eq_ask, Outgoing.send_eq_ask, Client.ask, Client.ask, hsends, hsends']
  split
  · rfl
  · split <;> rfl

/-- **The identity endpoint learns the credentials, and nothing else.** Two
requests with the same credentials come to the same end in every network, and
where all that is sent is read, the identity endpoint reads the same question
about both, or none about either, whatever it answers. The question has the
credentials of the caller, in their order and octet by octet, and nothing else
of the request. -/
theorem remote_shows_credentials_only {a b : Fields}
    (hauthorization : a.values FieldName.authorization = b.values FieldName.authorization)
    (hcookie : a.values FieldName.cookie = b.values FieldName.cookie) (endpoint : Url) :
    (∀ network, remote network endpoint a = remote network endpoint b) ∧
    (∀ here there : Network, here.Reads → there.Reads →
      (remote here endpoint a).asked = (remote there endpoint b).asked) ∧
    ∀ network, ∀ d ∈ (remote network endpoint a).asked, d.AsksAbout endpoint a := by
  have hcredentials := credentials_congr hauthorization hcookie
  refine ⟨?_, ?_, ?_⟩
  · intro network
    unfold remote
    rw [hcredentials]
  · intro here there hhere hthere
    -- The question is put together before anything is known of the network.
    have hquestion : question? endpoint a = question? endpoint b := by
      rw [question?, question?, hcredentials]
    rw [asked_remote, asked_remote, hquestion]
    cases question? endpoint b with
    | none => rfl
    | some r => exact received_congr r hhere hthere
  · intro network d hasked
    obtain ⟨r, hquestion, -, rfl⟩ := mem_asked_remote.mp hasked
    exact asksAbout_deliver hquestion

/-- Two cookies reach the identity endpoint, the second with an octet outside
ASCII; the role that the request claims and the host that it names do not. As
the caller sends no credentials of the kind, those of the endpoint stand in. -/
theorem cookies_reach_identity_endpoint :
    let a : Fields := [⟨FieldName.host, octets "elsewhere"⟩, ⟨FieldName.cookie, octets "a=1"⟩,
      ⟨CallerField.role.fieldName, octets "admin"⟩, ⟨FieldName.cookie, [0x62, 0x3D, 0xE9]⟩]
    let b : Fields := [⟨FieldName.cookie, octets "a=1"⟩, ⟨FieldName.cookie, [0x62, 0x3D, 0xE9]⟩]
    ∃ endpoint d, Url.parse "http://me:pw@127.0.0.1:3000/auth?full".toList = .ok endpoint ∧
      (remote (fun _ => .silent) endpoint a).asked = #[d] ∧
      (remote (fun _ => .answers []) endpoint b).asked = #[d] ∧
      d.target = "/auth?full".toList ∧
      d.fields.values FieldName.cookie = [octets "a=1", [0x62, 0x3D, 0xE9]] ∧
      d.fields.values FieldName.authorization = [octets "Basic bWU6cHc="] ∧
      d.fields.values FieldName.host = [octets "127.0.0.1:3000"] ∧
      d.fields.values CallerField.role.fieldName = [] := by
  intro a b
  have hparse : (Url.parse "http://me:pw@127.0.0.1:3000/auth?full".toList).toOption =
      some ⟨"http".toList, some ⟨"me".toList, "pw".toList, some (.ipv4 0x7F000001), some 3000⟩,
        .segments ["auth".toList], some "full".toList, none⟩ := by decide +kernel
  have hparse := Outcome.toOption_eq_some_iff.mp hparse
  obtain ⟨-, hsame, hasks⟩ := remote_shows_credentials_only (a := a) (b := b) rfl rfl
    ⟨"http".toList, some ⟨"me".toList, "pw".toList, some (.ipv4 0x7F000001), some 3000⟩,
      .segments ["auth".toList], some "full".toList, none⟩
  have hasked : ((remote (fun _ => .silent) ⟨"http".toList, some ⟨"me".toList, "pw".toList,
      some (.ipv4 0x7F000001), some 3000⟩, .segments ["auth".toList], some "full".toList,
        none⟩ a).asked).size = 1 := by decide +kernel
  obtain ⟨d, hd⟩ := Array.size_eq_one_iff.mp hasked
  have h := hasks (fun _ => .silent) d (by rw [hd]; exact Array.mem_singleton_self d)
  refine ⟨_, d, hparse, hd, ?_, ?_, ?_, ?_, ?_, h.others _ (by decide)⟩
  · rw [← hd]
    exact (hsame _ _ (fun _ => ⟨[], .stalls, rfl⟩) fun _ => ⟨[], .closes, rfl⟩).symm
  · rw [h.target]
    decide +kernel
  · rw [h.cookies]
    decide +kernel
  · rw [h.authorization]
    decide +kernel
  · rw [h.host]
    decide +kernel

end Verifier

end JobsGateway
