import JobsGateway.Proofs.Client.Wire
import JobsGateway.Proofs.Url.Percent
import JobsGateway.Proofs.Url.Userinfo

/-!
# Users that the client takes out of a URL

The client takes user name and password out of a URL before it sends a request,
if it can make texts of them. From then on the request has a URL without them,
and what comes of it depends on that URL. `IsDiscreet` names the URLs that can be
used so.
-/

namespace JobsGateway

/-! ## Users that can be taken out -/

namespace Url

theorem decodeText?_eq_nil {text : Text} (h : decodeText? text = some []) : text = [] :=
  Utf8.encode_eq_nil (Percent.decode_eq_nil (Utf8.decode?_eq_nil h))

/-- A URL whose user can be taken out: the name stands for a text, and where
there is none the password does. -/
def IsDiscreet (u : Url) : Prop :=
  ∀ a, u.authority = some a → (decodeText? a.username).isSome = true ∧
    (a.username = [] → (decodeText? a.password).isSome = true)

theorem host?_withoutUserinfo (u : Url) : u.withoutUserinfo.host? = u.host? := by
  unfold host? withoutUserinfo
  cases u.authority <;> rfl

theorem isDiscreet_withoutUserinfo (u : Url) : u.withoutUserinfo.IsDiscreet := by
  intro a ha
  obtain ⟨b, -, rfl⟩ := Option.map_eq_some_iff.mp ha
  exact ⟨rfl, fun _ => rfl⟩

theorem withoutUserinfo_eq_self_iff {u : Url} {a : Authority} (ha : u.authority = some a) :
    u.withoutUserinfo = u ↔ a.username = [] ∧ a.password = [] := by
  constructor
  · intro h
    have hauthority : u.authority.map (fun b => { b with username := [], password := [] }) =
        u.authority := congrArg Url.authority h
    rw [ha] at hauthority
    have hsame := Option.some.inj hauthority
    exact ⟨(congrArg Authority.username hsame).symm, (congrArg Authority.password hsame).symm⟩
  · rintro ⟨husername, hpassword⟩
    exact withoutUserinfo_eq_self ha husername hpassword

/-- Nothing is taken out of a URL if its name is no text, or if it is empty and
no password is found. -/
theorem userinfo?_eq_none_iff {u : Url} {a : Authority} (ha : u.authority = some a) :
    u.userinfo? = none ↔ decodeText? a.username = none ∨
      a.username = [] ∧ (a.password = [] ∨ decodeText? a.password = none) := by
  have hnil : decodeText? [] = some [] := rfl
  unfold userinfo?
  rw [ha]
  cases hname : decodeText? a.username with
  | none => simp [hname]
  | some name =>
      have hempty : name = [] ↔ a.username = [] := by
        constructor
        · rintro rfl
          exact decodeText?_eq_nil hname
        · intro h
          rw [h, hnil] at hname
          exact (Option.some.inj hname).symm
      by_cases hpassword : a.password = []
      · simp [hname, hpassword, hempty]
      · cases hfound : decodeText? a.password <;> simp [hname, hpassword, hfound, hempty]

/-- **A URL is discreet exactly if no user stays in it.** Where nothing is taken
out of it, nothing was there. -/
theorem isDiscreet_iff (u : Url) :
    u.IsDiscreet ↔ (u.userinfo? = none → u.withoutUserinfo = u) := by
  cases ha : u.authority with
  | none =>
      have hself : u.withoutUserinfo = u := by
        unfold withoutUserinfo
        rw [ha, Option.map_none, ← ha]
      exact ⟨fun _ _ => hself, fun _ a hsome => by rw [ha] at hsome; cases hsome⟩
  | some a =>
      have hnil : decodeText? [] = some [] := rfl
      have hsome : u.IsDiscreet ↔ decodeText? a.username ≠ none ∧
          (a.username = [] → decodeText? a.password ≠ none) := by
        simp only [ne_eq, ← Option.isSome_iff_ne_none]
        exact ⟨fun h => h a ha, fun h b hb => Option.some.inj (ha.symm.trans hb) ▸ h⟩
      rw [hsome, withoutUserinfo_eq_self_iff ha, userinfo?_eq_none_iff ha]
      constructor
      · rintro ⟨hname, hpassword⟩ (hnone | ⟨husername, hempty | hnone⟩)
        · exact absurd hnone hname
        · exact ⟨husername, hempty⟩
        · exact absurd hnone (hpassword husername)
      · intro h
        constructor
        · intro hnone
          rw [(h (Or.inl hnone)).1, hnil] at hnone
          cases hnone
        · intro husername hnone
          rw [(h (Or.inr ⟨husername, Or.inr hnone⟩)).2, hnil] at hnone
          cases hnone

end Url

/-! ## Requests to the same address -/

namespace Outgoing

variable {ε : Type}

/-- Two requests that may differ in their fields and body alone, or none for the
same reason. -/
def SameAddress : Except ε Outgoing → Except ε Outgoing → Prop
  | .ok r, .ok r' => r.method = r'.method ∧ r.url = r'.url
  | .error e, .error e' => e = e'
  | _, _ => False

theorem SameAddress.refl (x : Except ε Outgoing) : SameAddress x x := by
  cases x with
  | error e => exact rfl
  | ok r => exact ⟨rfl, rfl⟩

theorem SameAddress.cases {x y : Except ε Outgoing} (h : SameAddress x y) :
    (∃ e, x = .error e ∧ y = .error e) ∨
      ∃ r r', x = .ok r ∧ y = .ok r' ∧ r.method = r'.method ∧ r.url = r'.url := by
  cases x with
  | error e =>
      cases y with
      | error e' =>
          cases h
          exact Or.inl ⟨e, rfl, rfl⟩
      | ok r => cases h
  | ok r =>
      cases y with
      | error e => cases h
      | ok r' => exact Or.inr ⟨r, r', rfl, rfl, h⟩

theorem SameAddress.mapError {ε' : Type} {x y : Except ε Outgoing} (h : SameAddress x y)
    (f : ε → ε') : SameAddress (x.mapError f) (y.mapError f) := by
  rcases h.cases with ⟨e, rfl, rfl⟩ | ⟨r, r', rfl, rfl, hsame⟩
  · exact rfl
  · exact hsame

/-- The URL of a request has no user, if its user could be taken out. -/
theorem url_of_build {method : Text} {url : Url} {fields : Fields} {body : Option Bytes}
    {r : Outgoing} (h : build method url fields body = .ok r) (hd : url.IsDiscreet) :
    r.url = url.withoutUserinfo := by
  unfold build at h
  split at h
  · cases h
  · cases hinfo : url.userinfo? with
    | none =>
        rw [hinfo] at h
        cases h
        exact ((url.isDiscreet_iff.mp hd) hinfo).symm
    | some info =>
        rw [hinfo] at h
        cases h
        rfl

theorem host_of_build {method : Text} {url : Url} {fields : Fields} {body : Option Bytes}
    {r : Outgoing} (h : build method url fields body = .ok r) : url.host?.isSome = true := by
  unfold build at h
  split at h
  · cases h
  · rename_i hhost
    exact Option.isSome_iff_ne_none.mpr fun hnone => hhost (by rw [hnone]; rfl)

/-- A user that cannot be taken out stays in the URL of the request. -/
theorem build_of_no_userinfo {url : Url} (hhost : url.host?.isSome = true)
    (hinfo : url.userinfo? = none) (method : Text) (fields : Fields) (body : Option Bytes) :
    build method url fields body = .ok ⟨method, url, fields, body⟩ := by
  obtain ⟨host, hsome⟩ := Option.isSome_iff_exists.mp hhost
  unfold build
  rw [hsome, hinfo]
  rfl

/-- With its user and without, a discreet URL leads to the same address. -/
theorem sameAddress_build {url : Url} (hd : url.IsDiscreet)
    (hhost : url.host? = none → url.withoutUserinfo = url) (method : Text)
    (fields fields' : Fields) (body body' : Option Bytes) :
    SameAddress (build method url fields body)
      (build method url.withoutUserinfo fields' body') := by
  cases hhosted : url.host? with
  | none =>
      rw [hhost hhosted]
      unfold build
      rw [hhosted]
      exact rfl
  | some host =>
      have hsome : url.host?.isSome = true := by rw [hhosted, Option.isSome_some]
      obtain ⟨r, hr⟩ := exists_build hsome method fields body
      obtain ⟨r', hr'⟩ := exists_build (url.host?_withoutUserinfo ▸ hsome) method fields' body'
      rw [hr, hr']
      refine ⟨?_, ?_⟩
      · rw [(build_eq_ok hr).1, (build_eq_ok hr').1]
      · rw [url_of_build hr hd, url_of_build hr' url.isDiscreet_withoutUserinfo,
          Url.withoutUserinfo_withoutUserinfo]

/-- What comes of a request depends on its address. -/
theorem outcome_send_congr {r r' : Outgoing} (hmethod : r.method = r'.method)
    (hurl : r.url = r'.url) (network : Network) :
    (r.send network).outcome = (r'.send network).outcome := by
  rw [send_eq_ask, send_eq_ask]
  unfold Client.ask meets
  rw [hmethod, hurl]
  by_cases hweb : r'.url.isWeb = true
  · rw [hweb]
    by_cases hask : isAskable r'.url = true
    · rw [hask]
      cases network r'.url <;> rfl
    · rw [Bool.not_eq_true] at hask
      rw [hask]
      rfl
  · rw [Bool.not_eq_true] at hweb
    rw [hweb]
    rfl

end Outgoing

end JobsGateway
