import JobsGateway.Proofs.Outcome
import JobsGateway.Proofs.Url.Host
import JobsGateway.Url.Printer

/-!
# Authorities read back

The authority of a special URL is read back from its text: user name and
password are encoded, so no mark in them is taken for one that parts them, the
host is read back from its own text, and the port number from its digits.
-/

namespace JobsGateway

/-- An authority as the reader of a special scheme leaves it. -/
structure Authority.Canonical (scheme : Text) (a : Authority) : Prop where
  username : ∀ c ∈ a.username, Percent.inUserinfo c = false
  password : ∀ c ∈ a.password, Percent.inUserinfo c = false
  host : ∃ h, a.host = some h ∧ h.Canonical
  port : ∀ n, a.portNumber = some n → n < 65536 ∧ a.portNumber ≠ Url.defaultPort? scheme

namespace Url

/-! ## The steps of the reader -/

/-- The host of an authority, under a special scheme or under another one. -/
def readHost (special : Bool) (text : Text) : Except UrlError (Option Host) :=
  if special then (Host.readSpecial text).map some else Host.readOpaque text

/-- The authority of a user, from the text after the user. -/
def readAddress (scheme : Text) (special : Bool) (user : Text × Text) (text : Text) :
    Except UrlError (Authority × Text) :=
  if special && (cutHost false text).1.isEmpty then .error .emptyHost
  else match readHost special (cutHost false text).1 with
    | .error e => .error e
    | .ok host =>
      if host.isNone && (cutHost false text).2.head? == some ':' then .error .emptyHost
      else match readPortPart scheme (cutHost false text).2 with
        | .error e => .error e
        | .ok (number, rest) =>
          if host.isNone && (!user.1.isEmpty || !user.2.isEmpty) then .error .emptyHost
          else .ok (⟨user.1, user.2, host, number⟩, rest)

/-- The reader cuts off the user and reads the rest. -/
theorem readAuthority_eq {text user address : Text}
    (hcut : (cutUserinfo? text).getD ([], text) = (user, address)) (scheme : Text)
    (special more : Bool) :
    readAuthority scheme special more text =
      if (cutUserinfo? text).isSome && user.isEmpty && address.isEmpty && more then
        .error .emptyHost
      else readAddress scheme special (readUserinfo user) address := by
  unfold readAuthority readAddress readHost
  rw [hcut]
  simp only [bind, Except.bind, pure, Except.pure, throw, throwThe, MonadExceptOf.throw]
  refine if_congr Iff.rfl rfl (if_congr Iff.rfl rfl ?_)
  cases special with
  | true =>
      rw [if_pos rfl, if_pos rfl]
      cases (Host.readSpecial (cutHost false address).1).map some with
      | error e => rfl
      | ok host => cases readPortPart scheme (cutHost false address).2 <;> rfl
  | false =>
      rw [if_neg Bool.false_ne_true, if_neg Bool.false_ne_true]
      cases Host.readOpaque (cutHost false address).1 with
      | error e => rfl
      | ok host => cases readPortPart scheme (cutHost false address).2 <;> rfl

end Url

namespace Authority

variable {scheme : Text} {a : Authority}

/-- The port number as it is written. -/
def portText (a : Authority) : Text :=
  match a.portNumber with
  | some n => ':' :: Text.digits n
  | none => []

theorem portText_start (a : Authority) : a.portText = [] ∨ a.portText.head? = some ':' := by
  unfold portText
  split
  · exact Or.inr rfl
  · exact Or.inl rfl

/-- User name and password, without the `@` after them. -/
def userinfo (a : Authority) : Text :=
  a.username ++ (if a.password.isEmpty then [] else ':' :: a.password)

theorem hostText_eq {h : Host} (hhost : a.host = some h) :
    a.hostText = h.text ++ a.portText := by
  rw [Authority.hostText, hhost]
  rfl

theorem mem_userinfoText {c : Char} (h : c ∈ a.userinfoText) :
    c = ':' ∨ c = '@' ∨ c ∈ a.username ∨ c ∈ a.password := by
  unfold userinfoText at h
  split at h
  · cases h
  · simp only [List.mem_append, List.mem_singleton] at h
    rcases h with (h | h) | h
    · exact Or.inr (Or.inr (Or.inl h))
    · split at h
      · cases h
      · rcases List.mem_cons.mp h with h | h
        · exact Or.inl h
        · exact Or.inr (Or.inr (Or.inr h))
    · exact Or.inr (Or.inl h)

/-- The characters that an authority may be written with: none that ends it,
and no control or space. -/
def isTextChar (c : Char) : Bool :=
  0x20 < c.toNat && !Url.endsAuthority true c

theorem isTextChar_of_userinfo {c : Char} (h : Percent.inUserinfo c = false) :
    isTextChar c = true := by
  have hcontrols : Percent.controls c = false := by
    simp only [Percent.inUserinfo, Percent.inPath, Percent.inFragment, Bool.or_eq_false_iff] at h
    simp only [h]
  have hlt : c.toNat < 128 := by
    simp [Percent.controls] at hcontrols
    omega
  exact Text.forall_ascii
    (P := fun c => Percent.inUserinfo c = false → isTextChar c = true) (by decide +kernel) hlt h

theorem isTextChar_of_host {c : Char} (h : Host.isTextChar c = true) :
    isTextChar c = true ∧ c ≠ '@' := by
  have hlt : c.toNat < 128 := by
    simp only [Host.isTextChar, Bool.or_eq_true, beq_iff_eq, or_assoc] at h
    rcases h with h | rfl | rfl | rfl
    · exact ((Idna.isPlain_iff c).mp h).1
    all_goals decide
  exact Text.forall_ascii
    (P := fun c => Host.isTextChar c = true → isTextChar c = true ∧ c ≠ '@')
    (by decide +kernel) hlt h

theorem isTextChar_of_port {c : Char} (h : c ∈ a.portText) :
    isTextChar c = true ∧ c ≠ '@' := by
  unfold portText at h
  split at h
  · refine isTextChar_of_host ?_
    rcases List.mem_cons.mp h with rfl | h
    · decide
    · rw [Host.isTextChar, (Host.isPlain_of_mem_digits h).1]
      rfl
  · cases h

/-- The characters of host and port number are those that the host may have. -/
theorem isTextChar_of_mem_hostText {h : Host} (hhost : a.host = some h)
    (hchars : ∀ c ∈ h.text, isTextChar c = true ∧ c ≠ '@') {c : Char} (hc : c ∈ a.hostText) :
    isTextChar c = true ∧ c ≠ '@' := by
  rw [hostText_eq hhost] at hc
  rcases List.mem_append.mp hc with hc | hc
  · exact hchars c hc
  · exact isTextChar_of_port hc

/-- No character of an authority ends it, if user name and password are encoded
and the host holds no mark. -/
theorem isTextChar_of_mem_text (husername : ∀ c ∈ a.username, Percent.inUserinfo c = false)
    (hpassword : ∀ c ∈ a.password, Percent.inUserinfo c = false)
    (hhost : ∀ c ∈ a.hostText, isTextChar c = true) {c : Char} (hc : c ∈ a.text) :
    isTextChar c = true := by
  rcases List.mem_append.mp hc with hc | hc
  · rcases mem_userinfoText hc with rfl | rfl | hc | hc
    · decide
    · decide
    · exact isTextChar_of_userinfo (husername c hc)
    · exact isTextChar_of_userinfo (hpassword c hc)
  · exact hhost c hc

theorem Canonical.hostText (ha : a.Canonical scheme) {c : Char} (h : c ∈ a.hostText) :
    isTextChar c = true ∧ c ≠ '@' := by
  obtain ⟨host, hhost, hcanonical⟩ := ha.host
  exact isTextChar_of_mem_hostText hhost
    (fun c hc => isTextChar_of_host (hcanonical.isTextChar c hc)) h

theorem Canonical.text (ha : a.Canonical scheme) {c : Char} (h : c ∈ a.text) :
    isTextChar c = true :=
  isTextChar_of_mem_text ha.username ha.password (fun _ hc => (ha.hostText hc).1) h

theorem Canonical.text_ne_nil (ha : a.Canonical scheme) : a.text ≠ [] := by
  obtain ⟨host, hhost, hcanonical⟩ := ha.host
  rw [Authority.text, hostText_eq hhost]
  simp [hcanonical.text_ne_nil]

/-! ## User name and password -/

theorem cutUserinfo?_append {front back : Text} (h : '@' ∉ back) :
    Url.cutUserinfo? (front ++ '@' :: back) = some (front, back) := by
  have hback : ∀ c ∈ back.reverse, (c != '@') = true :=
    Text.bne_of_notMem fun hat => h (List.mem_reverse.mp hat)
  have hreverse : (front ++ '@' :: back).reverse = back.reverse ++ '@' :: front.reverse := by
    simp
  unfold Url.cutUserinfo?
  rw [hreverse, Text.dropWhile_append_mark hback rfl, Text.takeWhile_append_mark hback rfl]
  simp

theorem cutUserinfo?_eq_none {text : Text} (h : '@' ∉ text) : Url.cutUserinfo? text = none := by
  have hnil : text.reverse.dropWhile (· != '@') = [] :=
    List.dropWhile_eq_nil_iff.mpr (Text.bne_of_notMem fun hat => h (List.mem_reverse.mp hat))
  unfold Url.cutUserinfo?
  rw [hnil]

/-- User name and password are read back from their text. -/
theorem readUserinfo_userinfo (husername : ∀ c ∈ a.username, Percent.inUserinfo c = false)
    (hpassword : ∀ c ∈ a.password, Percent.inUserinfo c = false) :
    Url.readUserinfo a.userinfo = (a.username, a.password) := by
  have hcolon : ∀ c ∈ a.username, (c != ':') = true :=
    Text.bne_of_notMem fun hmem => absurd (husername _ hmem) (by decide)
  unfold Url.readUserinfo Url.cutAt userinfo
  cases hempty : a.password with
  | nil =>
      have htake : a.username.takeWhile (· != ':') = a.username :=
        List.takeWhile_eq_self_iff.mpr hcolon
      have hdrop : a.username.dropWhile (· != ':') = [] :=
        List.dropWhile_eq_nil_iff.mpr hcolon
      simp [htake, hdrop, Percent.encode_eq_self husername]
  | cons c rest =>
      have hkept := Percent.encode_eq_self hpassword
      rw [hempty] at hkept
      simp only [List.isEmpty_cons, Bool.false_eq_true, if_false,
        Text.takeWhile_append_mark hcolon (by rfl : (':' != ':') = false),
        Text.dropWhile_append_mark hcolon (by rfl : (':' != ':') = false),
        Option.getD_some, Percent.encode_eq_self husername, hkept]

/-- The last `@` parts what is before a host from it, if the host has none. -/
theorem cutUserinfo?_userinfoText (a : Authority) {hostText : Text} (hat : '@' ∉ hostText) :
    (Url.cutUserinfo? (a.userinfoText ++ hostText)).getD ([], a.userinfoText ++ hostText) =
      (a.userinfo, hostText) := by
  unfold userinfoText userinfo
  split
  · rename_i hempty
    rw [Bool.and_eq_true, List.isEmpty_iff, List.isEmpty_iff] at hempty
    rw [List.nil_append, cutUserinfo?_eq_none hat, hempty.1, hempty.2]
    rfl
  · rw [List.append_assoc _ ['@'], List.singleton_append, cutUserinfo?_append hat]
    rfl

/-! ## The whole -/

theorem Canonical.readPortPart (ha : a.Canonical scheme) :
    Url.readPortPart scheme a.portText = .ok (a.portNumber, []) := by
  unfold portText
  cases hport : a.portNumber with
  | none => rfl
  | some n =>
      obtain ⟨hlt, hdefault⟩ := ha.port n hport
      rw [hport] at hdefault
      have hdigits : ∀ c ∈ Text.digits n, (c != '\\') = true :=
        Text.bne_of_notMem fun hmem => absurd (Text.isDigit_of_mem_digits hmem) (by decide)
      have hread : Url.readPort (Text.digits n) = .ok (some n) := by
        unfold Url.readPort
        split
        · rename_i hnil
          exact absurd hnil (Text.digits_ne_nil n)
        · simp only [Text.natural?_digits, if_pos hlt]
      have htake : (Text.digits n).takeWhile (· != '\\') = Text.digits n :=
        List.takeWhile_eq_self_iff.mpr hdigits
      have hdrop : (Text.digits n).dropWhile (· != '\\') = [] :=
        List.dropWhile_eq_nil_iff.mpr hdigits
      simp only [Url.readPortPart, htake, hdrop, hread, bind, Except.bind, if_neg hdefault]
      rfl

/-- **An authority is read back from its text.** -/
theorem Canonical.readAuthority (ha : a.Canonical scheme) (more : Bool) :
    Url.readAuthority scheme true more a.text = .ok (a, []) := by
  obtain ⟨h, hhost, hcanonical⟩ := ha.host
  have hsome : a.host.isNone = false := by rw [hhost, Option.isNone_some]
  have hempty : h.text.isEmpty = false := by simpa using hcanonical.text_ne_nil
  have hrest : (h.text ++ a.portText).isEmpty = false := by simp [hcanonical.text_ne_nil]
  -- An `@` in the user name or password is encoded, and a host has none.
  have hat : '@' ∉ a.hostText := fun h => (ha.hostText h).2 rfl
  unfold Url.readAuthority Authority.text
  rw [cutUserinfo?_userinfoText a hat]
  simp only [hostText_eq hhost, hrest, Bool.and_false, Bool.false_and, Bool.false_eq_true,
    if_false, readUserinfo_userinfo ha.username ha.password,
    hcanonical.cutHost_text (portText_start a), hempty, if_true,
    hcanonical.readSpecial_text, Except.map, ← hhost, hsome, ha.readPortPart, bind, Except.bind]
  rfl

/-! ## Authorities that were read -/


theorem port_of_readPort {digits : Text} {number : Option Nat}
    (h : Url.readPort digits = .ok number) {n : Nat} (hn : number = some n) : n < 65536 := by
  subst hn
  unfold Url.readPort at h
  split at h
  · cases h
  · split at h
    · split at h
      · rename_i hlt
        cases h
        exact hlt
      · cases h
    · cases h

theorem port_of_readPortPart {text rest : Text} {number : Option Nat}
    (h : Url.readPortPart scheme text = .ok (number, rest)) {n : Nat} (hn : number = some n) :
    n < 65536 ∧ number ≠ Url.defaultPort? scheme := by
  unfold Url.readPortPart at h
  split at h
  · rename_i after
    cases hread : Url.readPort (after.takeWhile (· != '\\')) with
    | error e =>
        rw [hread] at h
        cases h
    | ok found =>
        simp only [hread, bind, Except.bind, pure, Except.pure, Except.ok.injEq,
          Prod.mk.injEq] at h
        obtain ⟨hnumber, -⟩ := h
        split at hnumber
        · rw [hn] at hnumber
          cases hnumber
        · rename_i hdefault
          subst hnumber
          exact ⟨port_of_readPort hread hn, hdefault⟩
  · cases h
    cases hn

theorem not_inUserinfo_of_readUserinfo {text username password : Text}
    (h : Url.readUserinfo text = (username, password)) :
    (∀ c ∈ username, Percent.inUserinfo c = false) ∧
      ∀ c ∈ password, Percent.inUserinfo c = false := by
  obtain ⟨rfl, rfl⟩ := Prod.mk.inj h
  exact ⟨fun c => Percent.not_set_of_mem_encode Percent.sparesEscapes_inUserinfo,
    fun c => Percent.not_set_of_mem_encode Percent.sparesEscapes_inUserinfo⟩

/-- What an authority was read from. A user needs a host. -/
theorem readAuthority_ok {special more : Bool} {text rest : Text}
    (h : Url.readAuthority scheme special more text = .ok (a, rest)) :
    ∃ userinfo hostText portText,
      Url.readUserinfo userinfo = (a.username, a.password) ∧
      Url.readHost special hostText = .ok a.host ∧
      Url.readPortPart scheme portText = .ok (a.portNumber, rest) ∧
      (a.host = none → a.username = [] ∧ a.password = []) := by
  obtain ⟨user, address, hcut⟩ :
      ∃ user address, (Url.cutUserinfo? text).getD ([], text) = (user, address) := ⟨_, _, rfl⟩
  rw [Url.readAuthority_eq hcut] at h
  split at h
  · cases h
  · unfold Url.readAddress at h
    split at h
    · cases h
    cases hhost : Url.readHost special (Url.cutHost false address).1 with
    | error e =>
        rw [hhost] at h
        cases h
    | ok host =>
        simp only [hhost] at h
        split at h
        · cases h
        cases hport : Url.readPortPart scheme (Url.cutHost false address).2 with
        | error e =>
            rw [hport] at h
            cases h
        | ok found =>
            simp only [hport] at h
            split at h
            · cases h
            · rename_i huser
              cases h
              refine ⟨user, _, _, rfl, hhost, hport, ?_⟩
              rintro rfl
              simpa using huser

/-- An authority that was read is canonical. -/
theorem canonical_of_readAuthority {more : Bool} {text rest : Text}
    (h : Url.readAuthority scheme true more text = .ok (a, rest)) : a.Canonical scheme := by
  obtain ⟨userinfo, hostText, portText, huser, hhost, hport, -⟩ := readAuthority_ok h
  obtain ⟨husername, hpassword⟩ := not_inUserinfo_of_readUserinfo huser
  obtain ⟨found, hread, hfound⟩ := Outcome.map_eq_ok_iff.mp hhost
  exact {
    username := husername
    password := hpassword
    host := ⟨found, hfound.symm, Host.canonical_of_readSpecial hread⟩
    port := fun n hn => port_of_readPortPart hport hn }

end Authority

end JobsGateway
