import JobsGateway.Proofs.Client.Delivery
import JobsGateway.Proofs.Url.Prefix

/-!
# The user of a URL

User name and password stand before the host, up to an `@`, and nothing else in
a URL depends on them. So a text is read with and without them alike: the same
is wrong with it, or the two URLs differ in the user alone. This holds under all
schemes; under those that are not special the host is an opaque text.
-/

namespace JobsGateway

/-! ## Hosts and marks -/

/-- A host whose text can stand in a URL of any scheme. It does not begin like a
port number, and none of its characters ends the authority or a user. -/
structure Host.StandsInUrl (h : Host) : Prop where
  start : ∃ c rest, h.text = c :: rest ∧ c ≠ ':'
  chars : ∀ c ∈ h.text, Authority.isTextChar c = true ∧ c ≠ '@'

namespace Host

theorem Canonical.standsInUrl {h : Host} (hh : h.Canonical) : h.StandsInUrl where
  start := by
    rcases hh.text_cases with ⟨hne, hplain⟩ | ⟨inner, htext, -⟩
    · obtain ⟨c, rest, htext⟩ := List.exists_cons_of_ne_nil hne
      refine ⟨c, rest, htext, ?_⟩
      rintro rfl
      exact absurd (hplain ':' (htext ▸ List.mem_cons_self)) (by decide)
    · exact ⟨'[', inner ++ [']'], htext, by decide⟩
  chars c hc := Authority.isTextChar_of_host (hh.isTextChar c hc)

/-- The characters of an opaque host. -/
theorem isTextChar_of_notForbidden {text : Text} (hallowed : text.any isForbiddenOpaque = false)
    {c : Char} (hc : c ∈ Percent.encode Percent.controls text) :
    Authority.isTextChar c = true ∧ c ≠ '@' ∧ c ≠ ':' := by
  rcases Percent.mem_encode hc with hescape | ⟨hmem, hcontrols⟩
  · have hspared : Percent.SparesEscapes fun d =>
        !(Authority.isTextChar d && d != '@' && d != ':') := .of_all (by decide)
    simpa [and_assoc] using hspared c hescape
  · have hlt : c.toNat < 128 := by
      simp only [Percent.controls, Bool.or_eq_false_iff, decide_eq_false_iff_not] at hcontrols
      omega
    have hforbidden : isForbiddenOpaque c = false := by
      simpa using List.any_eq_false.mp hallowed c hmem
    exact Text.forall_ascii
      (P := fun d => Percent.controls d = false → isForbiddenOpaque d = false →
        Authority.isTextChar d = true ∧ d ≠ '@' ∧ d ≠ ':')
      (by decide +kernel) hlt hcontrols hforbidden

theorem standsInUrl_of_readOpaque {text : Text} {h : Host}
    (hr : readOpaque text = .ok (some h)) : h.StandsInUrl := by
  unfold readOpaque at hr
  split at hr
  · cases hr
  · obtain ⟨found, hread, hfound⟩ := Outcome.map_eq_ok_iff.mp hr
    cases hfound
    exact (canonical_of_readBracketed hread).standsInUrl
  · rename_i hne _
    split at hr
    · cases hr
    · rename_i hallowed
      cases hr
      rw [Bool.not_eq_true] at hallowed
      constructor
      · obtain ⟨c, rest, rfl⟩ := List.exists_cons_of_ne_nil hne
        obtain ⟨d, more, htext⟩ :
            ∃ d more, Percent.encode Percent.controls (c :: rest) = d :: more := by
          refine List.exists_cons_of_ne_nil ?_
          rw [Percent.encode_cons]
          simp [Percent.encodeChar_ne_nil]
        refine ⟨d, more, htext, ?_⟩
        exact (isTextChar_of_notForbidden hallowed (htext ▸ List.mem_cons_self)).2.2
      · intro c hc
        obtain ⟨htext, hat, -⟩ := isTextChar_of_notForbidden hallowed hc
        exact ⟨htext, hat⟩

end Host

namespace Url

/-! ## The authority with a user and without -/

/-- A text that is not empty is no missing host. -/
theorem readHost_ne_none {special : Bool} {c : Char} {rest : Text} {host : Option Host}
    (h : readHost special (c :: rest) = .ok host) : ∃ found, host = some found := by
  unfold readHost at h
  cases special with
  | true =>
      obtain ⟨found, -, hfound⟩ := Outcome.map_eq_ok_iff.mp h
      exact ⟨found, hfound.symm⟩
  | false =>
      rw [if_neg Bool.false_ne_true] at h
      unfold Host.readOpaque at h
      split at h
      · rename_i hnil
        cases hnil
      · obtain ⟨found, -, hfound⟩ := Outcome.map_eq_ok_iff.mp h
        exact ⟨found, hfound.symm⟩
      · split at h
        · cases h
        · cases h
          exact ⟨_, rfl⟩

/-- Whether an address can be read does not depend on the user before it. -/
theorem readAddress_user (scheme : Text) (special : Bool) (user : Text × Text) {c : Char}
    (hc : c ≠ ':') (rest : Text) :
    readAddress scheme special user (c :: rest) =
      (readAddress scheme special ([], []) (c :: rest)).map fun p =>
        ({ p.1 with username := user.1, password := user.2 }, p.2) := by
  obtain ⟨more, after, hcut⟩ : ∃ more after, cutHost false (c :: rest) = (c :: more, after) := by
    have hcolon : (c == ':' && !false) = false := by simpa using hc
    rw [cutHost, if_neg (by rw [hcolon]; exact Bool.false_ne_true)]
    exact ⟨_, _, rfl⟩
  unfold readAddress
  rw [hcut]
  simp only [List.isEmpty_cons, Bool.and_false, Bool.false_eq_true, if_false]
  cases hhost : readHost special (c :: more) with
  | error e => rfl
  | ok host =>
      obtain ⟨found, rfl⟩ := readHost_ne_none hhost
      simp only [Option.isNone_some, Bool.false_and, Bool.false_eq_true, if_false]
      cases readPortPart scheme after <;> rfl

end Url

namespace Authority

/-- An authority is read with its user as it is read without, but for the
user. -/
theorem readAuthority_userinfo {a : Authority}
    (husername : ∀ c ∈ a.username, Percent.inUserinfo c = false)
    (hpassword : ∀ c ∈ a.password, Percent.inUserinfo c = false) {c : Char} {rest : Text}
    (hat : '@' ∉ c :: rest) (hc : c ≠ ':') (scheme : Text) (special more : Bool) :
    Url.readAuthority scheme special more (a.userinfoText ++ c :: rest) =
      (Url.readAuthority scheme special more (c :: rest)).map fun p =>
        ({ p.1 with username := a.username, password := a.password }, p.2) := by
  have hnone : (Url.cutUserinfo? (c :: rest)).getD ([], c :: rest) = ([], c :: rest) := by
    rw [cutUserinfo?_eq_none hat]
    rfl
  rw [Url.readAuthority_eq (cutUserinfo?_userinfoText a hat), Url.readAuthority_eq hnone]
  simp only [List.isEmpty_cons, Bool.and_false, Bool.false_and, Bool.false_eq_true, if_false]
  rw [Url.readAddress_user scheme special (Url.readUserinfo a.userinfo) hc,
    readUserinfo_userinfo husername hpassword]
  rfl

end Authority

namespace Url

/-- The URL with another user name and password, if it has an authority. -/
def withUserinfo (u : Url) (username password : Text) : Url :=
  { u with authority := u.authority.map fun a =>
      { a with username := username, password := password } }

theorem withoutUserinfo_withUserinfo (u : Url) (username password : Text) :
    (u.withUserinfo username password).withoutUserinfo = u.withoutUserinfo := by
  unfold withoutUserinfo withUserinfo
  cases u.authority <;> rfl

/-! ## URLs that may have a user -/

/-- A URL whose authority has a host and may have a user. -/
structure IsHosted (u : Url) (a : Authority) : Prop where
  authority : u.authority = some a
  scheme : IsScheme u.scheme
  kind : SchemeKind.of u.scheme ≠ .file
  username : ∀ c ∈ a.username, Percent.inUserinfo c = false
  password : ∀ c ∈ a.password, Percent.inUserinfo c = false
  host : ∃ h, a.host = some h ∧ h.StandsInUrl
  path : ∃ list, u.path = .segments list

variable {u : Url} {a : Authority}

theorem withoutUserinfo_eq_self (ha : u.authority = some a) (husername : a.username = [])
    (hpassword : a.password = []) : u.withoutUserinfo = u := by
  obtain ⟨scheme, authority, path, query, fragment⟩ := u
  obtain ⟨username, password, host, portNumber⟩ := a
  cases ha
  cases husername
  cases hpassword
  rfl

theorem IsHosted.withoutUserinfo (h : u.IsHosted a) :
    u.withoutUserinfo.IsHosted { a with username := [], password := [] } where
  authority := by
    show u.authority.map _ = _
    rw [h.authority]
    rfl
  scheme := h.scheme
  kind := h.kind
  username := by simp
  password := by simp
  host := h.host
  path := h.path

/-- The text after the user begins with the host, and has no mark in it. -/
theorem IsHosted.hostText (h : u.IsHosted a) :
    (∃ c rest, a.hostText = c :: rest ∧ c ≠ ':') ∧
      ∀ c ∈ a.hostText, Authority.isTextChar c = true ∧ c ≠ '@' := by
  obtain ⟨host, hhost, hstands⟩ := h.host
  constructor
  · obtain ⟨c, rest, htext, hc⟩ := hstands.start
    refine ⟨c, rest ++ a.portText, ?_, hc⟩
    rw [Authority.hostText_eq hhost, htext]
    rfl
  · intro c hc
    exact Authority.isTextChar_of_mem_hostText hhost hstands.chars hc

theorem IsHosted.text (h : u.IsHosted a) : ∀ c ∈ a.text, Authority.isTextChar c = true := by
  intro c hc
  exact Authority.isTextChar_of_mem_text h.username h.password
    (fun d hd => (h.hostText.2 d hd).1) hc

/-! ## The whole text with a user and without -/

/-- After the scheme, a text with an authority is read as a hierarchy. -/
theorem parse_hierarchy {scheme : Text} (hscheme : IsScheme scheme)
    (hkind : SchemeKind.of scheme ≠ .file) {text : Text} (hne : text ≠ [])
    (htext : ∀ c ∈ text, Authority.isTextChar c = true) {mark : Char}
    (hmark : 0x20 < mark.toNat) (rest : Text) :
    parse (scheme ++ ':' :: '/' :: '/' :: (text ++ mark :: rest)) =
      readHierarchy scheme (SchemeKind.of scheme).isSpecial (text ++ clean (mark :: rest)) := by
  have hvisible : ∀ c ∈ scheme ++ ':' :: '/' :: '/' :: text, 0x20 < c.toNat := by
    intro c hc
    simp only [List.mem_append, List.mem_cons] at hc
    rcases hc with hc | rfl | rfl | rfl | hc
    · exact hscheme.visible c hc
    · decide
    · decide
    · decide
    · exact of_decide_eq_true (Bool.and_eq_true_iff.mp (htext c hc)).1
  refine parse_eq_readHierarchy hscheme hkind hne htext ?_
  simpa using clean_append hvisible hmark rest

/-- **A text is read with a user as without.** -/
theorem IsHosted.parse_text (h : u.IsHosted a) {mark : Char}
    (hmark : mark = '/' ∨ mark = '?' ∨ mark = '#') (rest : Text) :
    parse (u.scheme ++ ':' :: '/' :: '/' :: (a.text ++ mark :: rest)) =
      (parse (u.scheme ++ ':' :: '/' :: '/' :: (a.hostText ++ mark :: rest))).map fun v =>
        v.withUserinfo a.username a.password := by
  obtain ⟨⟨c, more, hstart, hc⟩, hchars⟩ := h.hostText
  have hvisible : 0x20 < mark.toNat := by rcases hmark with rfl | rfl | rfl <;> decide
  have hends : endsAuthority (SchemeKind.of u.scheme).isSpecial mark = true := by
    rcases hmark with rfl | rfl | rfl <;> rfl
  have hat : '@' ∉ a.hostText := fun hmem => (hchars _ hmem).2 rfl
  obtain ⟨kept, hkept⟩ := clean_cons hvisible rest
  have hne : a.hostText ≠ [] := by
    rw [hstart]
    exact List.cons_ne_nil _ _
  have hne' : a.text ≠ [] := fun hnil => hne (List.append_eq_nil_iff.mp hnil).2
  rw [parse_hierarchy h.scheme h.kind hne' h.text hvisible,
    parse_hierarchy h.scheme h.kind hne (fun c hc => (hchars c hc).1) hvisible, hkept,
    readHierarchy_append h.text hends,
    readHierarchy_append (fun c hc => (hchars c hc).1) hends]
  unfold Authority.text
  rw [hstart] at hat ⊢
  rw [Authority.readAuthority_userinfo h.username h.password hat hc]
  cases readAuthority u.scheme (SchemeKind.of u.scheme).isSpecial true (c :: more) <;> rfl

/-- A URL is written longer with a user than without. -/
theorem text_withUserinfo_ne {v : Url} {b : Authority} (hb : v.authority = some b)
    {username password : Text} (huser : ¬ (username = [] ∧ password = [])) :
    (v.withUserinfo username password).text ≠ v.withoutUserinfo.text := by
  intro h
  have hlength := congrArg List.length h
  have hsome : (v.withUserinfo username password).authorityText =
      '/' :: '/' :: (Authority.userinfoText ⟨username, password, b.host, b.portNumber⟩ ++
        b.hostText) := by
    unfold authorityText withUserinfo
    rw [hb]
    rfl
  have hnone : v.withoutUserinfo.authorityText = '/' :: '/' :: b.hostText := by
    unfold authorityText withoutUserinfo
    rw [hb]
    rfl
  have hpositive : 0 < (Authority.userinfoText ⟨username, password, b.host, b.portNumber⟩).length := by
    unfold Authority.userinfoText
    rw [if_neg (by simpa using huser), List.length_append]
    exact Nat.lt_of_lt_of_le Nat.one_pos (Nat.le_add_left ..)
  unfold Url.text at hlength
  rw [hsome, hnone] at hlength
  simp only [List.length_append, List.length_cons] at hlength
  have hrest : (v.withUserinfo username password).scheme = v.withoutUserinfo.scheme ∧
      (v.withUserinfo username password).path = v.withoutUserinfo.path ∧
      (v.withUserinfo username password).queryText = v.withoutUserinfo.queryText ∧
      (v.withUserinfo username password).fragmentText = v.withoutUserinfo.fragmentText :=
    ⟨rfl, rfl, rfl, rfl⟩
  rw [hrest.1, hrest.2.1, hrest.2.2.1, hrest.2.2.2] at hlength
  omega

/-! ## URLs that were read -/

theorem isHosted_of_readHierarchy {scheme : Text} {special : Bool} {text : Text}
    (hscheme : IsScheme scheme) (hkind : SchemeKind.of scheme ≠ .file)
    (h : readHierarchy scheme special text = .ok u) (huser : u.withoutUserinfo ≠ u) :
    ∃ a, u.IsHosted a := by
  obtain ⟨a, more, rest, tail, path, hread, rfl⟩ := readHierarchy_ok h
  obtain ⟨userinfo, hostText, portText, hparts, hhost, -, hnamed⟩ :=
    Authority.readAuthority_ok hread
  obtain ⟨husername, hpassword⟩ := Authority.not_inUserinfo_of_readUserinfo hparts
  cases hfound : a.host with
  | none =>
      obtain ⟨hno, hno'⟩ := hnamed hfound
      exact absurd (withoutUserinfo_eq_self rfl hno hno') huser
  | some host =>
      rw [hfound] at hhost
      have hstands : host.StandsInUrl := by
        cases special with
        | true =>
            obtain ⟨read, hspecial, hsame⟩ := Outcome.map_eq_ok_iff.mp hhost
            cases hsame
            exact (Host.canonical_of_readSpecial hspecial).standsInUrl
        | false => exact Host.standsInUrl_of_readOpaque hhost
      exact ⟨a, rfl, hscheme, hkind, husername, hpassword, ⟨host, hfound, hstands⟩, ⟨_, rfl⟩⟩

/-- A URL that was read with a user has a host, and is no file. -/
theorem isHosted_of_parse {text : Text} (h : parse text = .ok u)
    (huser : u.withoutUserinfo ≠ u) : ∃ a, u.IsHosted a := by
  unfold parse at h
  split at h
  · cases h
  · rename_i scheme rest hread
    have hscheme := isScheme_of_readScheme? hread
    split at h
    · obtain ⟨host, rest, rfl⟩ := readFile_ok h
      exact absurd (withoutUserinfo_eq_self rfl rfl rfl) huser
    · rename_i hkind
      exact isHosted_of_readHierarchy hscheme (by rw [hkind]; decide) h huser
    · rename_i hkind
      unfold readPlain at h
      split at h
      · exact isHosted_of_readHierarchy hscheme (by rw [hkind]; decide) h huser
      · cases h
        exact absurd rfl huser
      · cases h
        exact absurd rfl huser

/-- Without a host there is no user. -/
theorem withoutUserinfo_of_no_host {text : Text} (h : parse text = .ok u)
    (hhost : u.host? = none) : u.withoutUserinfo = u := by
  by_contra huser
  obtain ⟨a, ha⟩ := isHosted_of_parse h huser
  obtain ⟨host, hfound, -⟩ := ha.host
  rw [host?, ha.authority, Option.bind_some, hfound] at hhost
  cases hhost

end Url

end JobsGateway
