import JobsGateway.Client.Exchange
import JobsGateway.Proofs.Http.Fields

/-!
# What a peer reads of a request

A request is put together from a method, a URL, fields and a body. A client sends
it again only where a reply leads it on or a connection that it kept was closed,
so one that follows and keeps nothing sends it at most once. The peer then reads
that method, the path and query of that URL, those fields, and that body; the
client adds four fields of its own, each only where none is given.
-/

namespace JobsGateway

namespace Fields

/-- Fields that may stand after others: they have some of the given names, each
at most once, and none that is there already. -/
structure Added (names : List Text) (fields added : Fields) : Prop where
  named : ∀ f ∈ added, f.name ∈ names
  fresh : ∀ f ∈ added, fields.has f.name = false
  once : (added.map Field.name).Nodup

theorem Added.nil (names : List Text) (fields : Fields) : Added names fields [] where
  named := by simp
  fresh := by simp
  once := by simp

theorem has_append (a b : Fields) (name : Text) :
    (a ++ b).has name = (a.has name || b.has name) := by
  simp [has]

theorem Added.putNew {names : List Text} {fields added : Fields}
    (h : Added names fields added) {name : Text} (hname : name ∈ names) (value : Bytes) :
    ∃ more, (fields ++ added).putNew name value = fields ++ more ∧
      Added names fields more := by
  unfold Fields.putNew
  cases hhas : (fields ++ added).has name with
  | true => exact ⟨added, by simp, h⟩
  | false =>
      obtain ⟨hfields, hadded⟩ := Bool.or_eq_false_iff.mp ((has_append ..).symm.trans hhas)
      refine ⟨added ++ [⟨name, value⟩], by simp, ⟨?_, ?_, ?_⟩⟩
      · intro f hf
        rcases List.mem_append.mp hf with hf | hf
        · exact h.named f hf
        · rw [List.mem_singleton.mp hf]
          exact hname
      · intro f hf
        rcases List.mem_append.mp hf with hf | hf
        · exact h.fresh f hf
        · rw [List.mem_singleton.mp hf]
          exact hfields
      · rw [List.map_append, List.nodup_append]
        refine ⟨h.once, by simp, ?_⟩
        rintro _ hold _ hnew rfl
        obtain ⟨f, hf, hfn⟩ := List.mem_map.mp hold
        have hnew : f.name = name := hfn.trans (by simpa using hnew)
        rw [← Bool.not_eq_true, has_eq_true_iff] at hadded
        exact hadded ⟨f, hf, hnew⟩

theorem has_putNew_of_ne (fields : Fields) {name other : Text} (h : name ≠ other)
    (value : Bytes) : (fields.putNew name value).has other = fields.has other := by
  unfold putNew
  split
  · rfl
  · simp [has, h]

theorem values_putNew (fields : Fields) (name value) (other : Text) :
    (fields.putNew name value).values other =
      if name = other ∧ fields.has name = false then [value] else fields.values other := by
  unfold putNew
  cases hhas : fields.has name with
  | true => simp
  | false =>
      rw [if_neg (by simp), values_append, values_cons, values_nil]
      by_cases hn : name = other
      · subst hn
        have hnone : fields.values name = [] := by
          rw [values_eq_nil_iff]
          intro f hf hname
          rw [← Bool.not_eq_true, has_eq_true_iff] at hhas
          exact hhas ⟨f, hf, hname⟩
        simp [hnone]
      · simp [hn]

theorem values_putNew_of_ne (fields : Fields) {name other : Text} (h : name ≠ other)
    (value : Bytes) : (fields.putNew name value).values other = fields.values other := by
  rw [values_putNew, if_neg fun hn => h hn.1]

theorem values_putNew_self (fields : Fields) (name : Text) (value : Bytes) :
    (fields.putNew name value).values name =
      if fields.values name = [] then [value] else fields.values name := by
  simp only [values_putNew, has_eq_false_iff, true_and]

end Fields

namespace Url

/-- The host and port number of a URL, as they are written. -/
def hostText (u : Url) : Text :=
  (u.authority.map Authority.hostText).getD []

@[simp] theorem hostText_withoutUserinfo (u : Url) :
    u.withoutUserinfo.hostText = u.hostText := by
  unfold hostText withoutUserinfo
  cases u.authority <;> rfl

@[simp] theorem withoutUserinfo_withoutUserinfo (u : Url) :
    u.withoutUserinfo.withoutUserinfo = u.withoutUserinfo := by
  unfold withoutUserinfo
  cases u.authority <;> rfl

end Url

/-- The fields that the client adds to a request. -/
def clientFields : List Text :=
  [FieldName.authorization, FieldName.accept, FieldName.host, FieldName.contentLength]

/-- What a peer reads is a request of a method to a URL, with some fields and a
body. -/
structure Delivery.Conveys (d : Delivery) (method : Text) (url : Url) (fields : Fields)
    (body : Bytes) : Prop where
  method : d.method = method
  target : d.target = url.path.text ++ url.queryText
  host : fields.has FieldName.host = false →
    d.fields.values FieldName.host = [Utf8.encode url.hostText]
  fields : ∃ added, d.fields = fields ++ added ∧ Fields.Added clientFields fields added
  body : d.body = body

/-! ## How often a request is sent -/

/-- The steady client takes the first reply. -/
theorem Outgoing.send_eq_ask (r : Outgoing) (network : Network) :
    r.send network = Client.steady.ask (fun _ => 0) network r :=
  rfl

namespace Client

variable {c : Client} {stale : Url → Nat} {network : Network} {r : Outgoing}

/-- A client that takes the first reply sends a request once, and again for each
connection that it kept in vain; one peer at most reads it. -/
theorem ask_bounds :
    (c.ask stale network r).tries ≤ c.idle + 1 ∧ (c.ask stale network r).received.size ≤ 1 := by
  unfold ask
  split
  · exact ⟨Nat.zero_le _, Nat.zero_le _⟩
  · split
    · exact ⟨Nat.zero_le _, Nat.zero_le _⟩
    · have hstale : min (stale r.url) c.idle + 1 ≤ c.idle + 1 :=
        Nat.succ_le_succ (Nat.min_le_right ..)
      cases network r.url with
      | sends octets parting => exact ⟨hstale, Nat.le_refl 1⟩
      | _ => exact ⟨hstale, Nat.zero_le 1⟩

/-- A request that is led on so many times is sent that much more often. -/
theorem askOn_bounds (times : Nat) :
    (c.askOn stale network times r).tries ≤ (times + 1) * (c.idle + 1) ∧
      (c.askOn stale network times r).received.size ≤ times + 1 := by
  induction times generalizing r with
  | zero =>
      rw [askOn, Nat.zero_add, Nat.one_mul]
      exact ask_bounds
  | succ times ih =>
      have hask : (c.ask stale network r).tries ≤ c.idle + 1 ∧
          (c.ask stale network r).received.size ≤ 1 := ask_bounds
      obtain ⟨htries, hsize⟩ := hask
      rw [askOn]
      dsimp only
      split
      · refine ⟨Nat.le_trans htries (Nat.le_mul_of_pos_left _ (Nat.succ_pos _)), by omega⟩
      · rename_i next _
        obtain ⟨htries', hsize'⟩ := ih (r := next)
        dsimp only
        rw [Array.size_append, Nat.succ_mul (times + 1)]
        exact ⟨by omega, by omega⟩

/-- **How often a request is sent** is bounded by the replies that the client
follows and the connections that it keeps. -/
theorem send_bounds (c : Client) (stale : Url → Nat) (network : Network) (r : Outgoing) :
    (c.send stale network r).tries ≤ (c.redirects + 1) * (c.idle + 1) ∧
      (c.send stale network r).received.size ≤ c.redirects + 1 :=
  askOn_bounds c.redirects

/-- **A client that follows nothing and keeps nothing sends a request once,** as
the steady client does. -/
theorem send_of_steady (hredirects : c.redirects = 0) (hidle : c.idle = 0) (stale : Url → Nat)
    (network : Network) (r : Outgoing) : c.send stale network r = r.send network := by
  rw [send, hredirects, askOn, Outgoing.send_eq_ask, ask, ask, hidle, Nat.min_zero]
  rfl

end Client

/-! ## What is sent -/

/-- The peer accepts the connection, and reads what it is sent. -/
def Contact.Accepts (contact : Contact) : Prop :=
  ∃ octets parting, contact = .sends octets parting

namespace Outgoing

/-- The request gets to its peer: it may be sent, and the peer accepts the
connection. -/
def Reaches (r : Outgoing) (network : Network) : Prop :=
  r.url.isWeb = true ∧ isAskable r.url = true ∧ (network r.url).Accepts

/-- The peer reads the request if it gets there, and nothing otherwise. -/
theorem mem_received_send (r : Outgoing) (network : Network) (d : Delivery) :
    d ∈ (r.send network).received ↔ r.Reaches network ∧ d = r.deliver := by
  rw [send_eq_ask]
  unfold Client.ask Reaches Contact.Accepts
  cases hweb : r.url.isWeb with
  | false => simp
  | true =>
      cases hask : isAskable r.url with
      | false => simp
      | true => cases hcontact : network r.url <;> simp [meets]

/-- It reads it once. -/
theorem size_received_send (r : Outgoing) (network : Network) :
    (r.send network).received.size ≤ 1 :=
  (Client.send_bounds Client.steady (fun _ => 0) network r).2

/-- Sending a request asks the network about its URL and about no other. -/
theorem send_congr {r : Outgoing} {network other : Network}
    (h : other r.url = network r.url) : r.send other = r.send network := by
  rw [send_eq_ask, send_eq_ask, Client.ask, Client.ask, h]

theorem build_eq_ok {method : Text} {url : Url} {fields : Fields} {body : Option Bytes}
    {r : Outgoing} (h : build method url fields body = .ok r) :
    r.method = method ∧ r.body = body ∧
      r.url.withoutUserinfo = url.withoutUserinfo ∧ r.target = url.path.text ++ url.queryText ∧
      (r.fields = fields ∨
        ∃ value, r.fields = fields.putNew FieldName.authorization value) := by
  unfold build at h
  split at h
  · cases h
  · cases hinfo : url.userinfo? with
    | none =>
        rw [hinfo] at h
        cases h
        exact ⟨rfl, rfl, rfl, rfl, Or.inl rfl⟩
    | some info =>
        rw [hinfo] at h
        cases h
        exact ⟨rfl, rfl, Url.withoutUserinfo_withoutUserinfo url, rfl, Or.inr ⟨_, rfl⟩⟩

theorem hostText_of_build {method : Text} {url : Url} {fields : Fields} {body : Option Bytes}
    {r : Outgoing} (h : build method url fields body = .ok r) :
    r.url.hostText = url.hostText := by
  rw [← Url.hostText_withoutUserinfo r.url, (build_eq_ok h).2.2.1, Url.hostText_withoutUserinfo]

theorem wireFields_added {r : Outgoing} {fields added : Fields}
    (hr : r.fields = fields ++ added) (h : Fields.Added clientFields fields added) :
    ∃ more, r.wireFields = fields ++ more ∧ Fields.Added clientFields fields more := by
  obtain ⟨m₁, e₁, h₁⟩ :=
    h.putNew (by decide : FieldName.accept ∈ clientFields) (octets "*/*")
  obtain ⟨m₂, e₂, h₂⟩ := h₁.putNew (by decide : FieldName.host ∈ clientFields)
    (Utf8.encode ((r.url.authority.map Authority.hostText).getD []))
  unfold wireFields
  simp only [hr, e₁, e₂]
  split
  · rename_i b rest _
    exact h₂.putNew (by decide) (numberOctets (b :: rest).length)
  · exact ⟨m₂, rfl, h₂⟩

/-- The peer reads the host of the URL where the fields name none. -/
theorem values_host_wireFields {r : Outgoing}
    (h : r.fields.has FieldName.host = false) :
    r.wireFields.values FieldName.host = [Utf8.encode r.url.hostText] := by
  have haccept : (r.fields.putNew FieldName.accept (octets "*/*")).has FieldName.host =
      false := by
    rw [Fields.has_putNew_of_ne _ (by decide), h]
  unfold wireFields
  simp only
  split
  · rw [Fields.values_putNew, if_neg (by rintro ⟨hn, _⟩; revert hn; decide),
      Fields.values_putNew, if_pos ⟨rfl, haccept⟩]
    rfl
  · rw [Fields.values_putNew, if_pos ⟨rfl, haccept⟩]
    rfl

/-- A peer that is reached reads what the request was built from. -/
theorem conveys_deliver {method : Text} {url : Url} {fields : Fields}
    {body : Option Bytes} {r : Outgoing} (h : build method url fields body = .ok r) :
    r.deliver.Conveys method url fields (body.getD []) := by
  obtain ⟨hmethod, hbody, -, htarget, hfields⟩ := build_eq_ok h
  refine ⟨hmethod, htarget, ?_, ?_, by rw [deliver, hbody]⟩
  · intro hnone
    rw [deliver, values_host_wireFields, hostText_of_build h]
    rcases hfields with hsame | ⟨value, hput⟩
    · rw [hsame]
      exact hnone
    · rw [hput, Fields.has_putNew_of_ne _ (by decide), hnone]
  · -- User name and password of the URL come first, if there are any.
    rcases hfields with hsame | ⟨value, hput⟩
    · exact wireFields_added (by rw [hsame, List.append_nil]) (Fields.Added.nil ..)
    · obtain ⟨added, hadded, hnew⟩ :=
        (Fields.Added.nil clientFields fields).putNew
          (by decide : FieldName.authorization ∈ clientFields) value
      rw [List.append_nil] at hadded
      exact wireFields_added (hput.trans hadded) hnew

end Outgoing

end JobsGateway
