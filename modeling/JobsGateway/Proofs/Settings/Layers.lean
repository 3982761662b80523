import JobsGateway.Proofs.Settings.Origins

/-!
# Settings come in layers

Each setting has a variable of its own. Where the variable is set, the setting
is what it says and nothing below matters; where it is not, the setting is that
of the file, or the standard one without a file. Every variable that is set has
to be readable, but only the settings that come out have to be usable. So what
is wrong with a file is forgiven where the environment says something else.
-/

namespace JobsGateway

/-! ## One setting -/

/-- The URL in a text, without the blanks around it. -/
def Url.ofTrimmed? (raw : Text) : Option Url :=
  (Url.parse (Text.trim raw)).toOption

/-- The natural number in a text, without the blanks around it. -/
def Text.trimmedNumber? (raw : Text) : Option Nat :=
  Text.unsigned? (Text.trim raw)

namespace Environment

section Setting

variable {α : Type} {env env' : Environment} {v : Variable} {read : Text → Option α}
  {below below' value value' : α}

/-- What a setting comes to: the value that is read from its variable, or the
one below where the variable is not set. -/
def Settles (env : Environment) (v : Variable) (read : Text → Option α) (below value : α) :
    Prop :=
  match env v with
  | none => value = below
  | some raw => read raw = some value

theorem settles_of_none (h : env v = none) : env.Settles v read below value ↔ value = below := by
  unfold Settles
  rw [h]

theorem settles_of_some {raw : Text} (h : env v = some raw) :
    env.Settles v read below value ↔ read raw = some value := by
  unfold Settles
  rw [h]

/-- A setting depends on its variable, and on what is below only where the
variable is not set. -/
theorem Settles.unique (h : env.Settles v read below value)
    (h' : env'.Settles v read below' value') (hv : env' v = env v)
    (hbelow : env v = none → below = below') : value = value' := by
  cases hset : env v with
  | none =>
      rw [settles_of_none hset] at h
      rw [settles_of_none (hv.trans hset)] at h'
      rw [h, h', hbelow hset]
  | some raw =>
      rw [settles_of_some hset] at h
      rw [settles_of_some (hv.trans hset)] at h'
      exact Option.some.inj (h.symm.trans h')

end Setting

variable (env : Environment) (v : Variable)

theorem settles_listen_iff {below value : Text} :
    env.Settles v some below value ↔ value = (env v).getD below := by
  cases hset : env v with
  | none => rw [settles_of_none hset, Option.getD_none]
  | some raw =>
      rw [settles_of_some hset, Option.getD_some, Option.some.injEq]
      exact eq_comm

theorem settles_url_iff {below value : Url} :
    env.Settles v Url.ofTrimmed? below value ↔
      ∃ found, env.url? v = .ok found ∧ value = found.getD below := by
  cases hset : env v with
  | none =>
      rw [settles_of_none hset, url?, hset]
      simp
  | some raw =>
      rw [settles_of_some hset, url?, hset, Url.ofTrimmed?]
      cases hparse : Url.parse (Text.trim raw) with
      | error fault => simp [hparse, Except.toOption]
      | ok url => simp [hparse, Except.toOption, eq_comm]

theorem settles_number_iff {below value : Nat} :
    env.Settles v Text.trimmedNumber? below value ↔
      ∃ found, env.natural? v = .ok found ∧ value = found.getD below := by
  cases hset : env v with
  | none =>
      rw [settles_of_none hset, natural?, hset]
      simp
  | some raw =>
      rw [settles_of_some hset, natural?, hset, Text.trimmedNumber?]
      cases hread : Text.unsigned? (Text.trim raw) with
      | none => simp [hread]
      | some n => simp [hread, eq_comm]

end Environment

/-! ## All settings -/

namespace Settings

/-- Settings that the variables of an environment and other settings below come
to. -/
structure Layered (env : Environment) (below s : Settings) : Prop where
  listen : env.Settles .listen some below.listen s.listen
  backendUrl : env.Settles .backendUrl Url.ofTrimmed? below.backendUrl s.backendUrl
  timeoutSeconds :
    env.Settles .timeout Text.trimmedNumber? below.timeoutSeconds s.timeoutSeconds
  identityUrl : env.Settles .identityUrl Url.ofTrimmed? below.identityUrl s.identityUrl
  maxBody : env.Settles .maxBody Text.trimmedNumber? below.maxBody s.maxBody

/-- Settings that can be used: both URLs are for HTTP, and there is a time. -/
structure Usable (s : Settings) : Prop where
  backendUrl : s.backendUrl.scheme = "http".toList ∨ s.backendUrl.scheme = "https".toList
  identityUrl : s.identityUrl.scheme = "http".toList ∨ s.identityUrl.scheme = "https".toList
  timeoutSeconds : 1 ≤ s.timeoutSeconds

/-- Two settings agree wherever a property of the variable holds. -/
structure AgreeOn (p : Variable → Prop) (s s' : Settings) : Prop where
  listen : p .listen → s.listen = s'.listen
  backendUrl : p .backendUrl → s.backendUrl = s'.backendUrl
  timeoutSeconds : p .timeout → s.timeoutSeconds = s'.timeoutSeconds
  identityUrl : p .identityUrl → s.identityUrl = s'.identityUrl
  maxBody : p .maxBody → s.maxBody = s'.maxBody

/-- The settings of the file that an environment names, or the standard ones
where it names none. -/
def IsBase (env : Environment) (files : Files) (below : Settings) : Prop :=
  (env .settingsFile = none ∧ below = standard) ∨
    ∃ path, env .settingsFile = some path ∧ ofFile files path = .ok below

variable {env env' : Environment} {files files' : Files} {below below' s s' : Settings}

theorem base_eq_ok_iff : base env files = .ok below ↔ IsBase env files below := by
  unfold base IsBase
  cases env .settingsFile with
  | none => simp [eq_comm]
  | some path => simp

theorem usable_iff :
    s.Usable ↔ s.backendUrl.isWeb = true ∧ s.identityUrl.isWeb = true ∧
      s.timeoutSeconds ≠ 0 := by
  have hweb : ∀ u : Url, u.isWeb = true ↔
      u.scheme = "http".toList ∨ u.scheme = "https".toList := by
    intro u
    simp [Url.isWeb]
  rw [hweb, hweb, ← Nat.one_le_iff_ne_zero]
  exact ⟨fun h => ⟨h.1, h.2, h.3⟩, fun h => ⟨h.1, h.2.1, h.2.2⟩⟩

/-- Settings pass the check as they are exactly if they can be used. -/
theorem check_eq_ok_iff : below.check = .ok s ↔ below = s ∧ s.Usable := by
  constructor
  · intro h
    obtain ⟨rfl, husable⟩ := check_ok h
    exact ⟨rfl, usable_iff.mpr husable⟩
  · rintro ⟨rfl, husable⟩
    obtain ⟨hbackend, hidentity, htimeout⟩ := usable_iff.mp husable
    simp [check, hbackend, hidentity, htimeout]

/-- The settings that an environment names come to what its variables settle. -/
theorem layered_iff :
    Layered env below s ↔ ∃ layer, env.layer = .ok layer ∧ layer.onto below = s := by
  constructor
  · intro h
    obtain ⟨backendUrl, hbackend, hbackend'⟩ := (env.settles_url_iff _).mp h.backendUrl
    obtain ⟨timeout, htimeout, htimeout'⟩ := (env.settles_number_iff _).mp h.timeoutSeconds
    obtain ⟨identityUrl, hidentity, hidentity'⟩ := (env.settles_url_iff _).mp h.identityUrl
    obtain ⟨maxBody, hmax, hmax'⟩ := (env.settles_number_iff _).mp h.maxBody
    refine ⟨⟨env .listen, backendUrl, timeout, identityUrl, maxBody⟩, ?_, ?_⟩
    · unfold Environment.layer
      rw [hbackend, htimeout, hidentity, hmax]
      rfl
    · obtain ⟨listen, _, _, _, _⟩ := s
      obtain rfl := (env.settles_listen_iff _).mp h.listen
      dsimp only at hbackend' htimeout' hidentity' hmax'
      rw [hbackend', htimeout', hidentity', hmax']
      rfl
  · rintro ⟨layer, hlayer, rfl⟩
    obtain ⟨backendUrl, hbackend, hlayer⟩ := Outcome.bind_eq_ok_iff.mp hlayer
    obtain ⟨timeout, htimeout, hlayer⟩ := Outcome.bind_eq_ok_iff.mp hlayer
    obtain ⟨identityUrl, hidentity, hlayer⟩ := Outcome.bind_eq_ok_iff.mp hlayer
    obtain ⟨maxBody, hmax, hlayer⟩ := Outcome.bind_eq_ok_iff.mp hlayer
    cases hlayer
    exact ⟨(env.settles_listen_iff _).mpr rfl,
      (env.settles_url_iff _).mpr ⟨_, hbackend, rfl⟩,
      (env.settles_number_iff _).mpr ⟨_, htimeout, rfl⟩,
      (env.settles_url_iff _).mpr ⟨_, hidentity, rfl⟩,
      (env.settles_number_iff _).mpr ⟨_, hmax, rfl⟩⟩

/-- Settings load exactly if they are usable and the variables settle them over
the file. -/
theorem load_eq_ok_iff :
    load env files = .ok s ↔ ∃ below, IsBase env files below ∧ Layered env below s ∧ s.Usable := by
  constructor
  · intro h
    obtain ⟨below, hbase, h⟩ := Outcome.bind_eq_ok_iff.mp h
    obtain ⟨layer, hlayer, h⟩ := Outcome.bind_eq_ok_iff.mp h
    obtain ⟨honto, husable⟩ := check_eq_ok_iff.mp h
    exact ⟨below, base_eq_ok_iff.mp hbase, layered_iff.mpr ⟨layer, hlayer, honto⟩, husable⟩
  · rintro ⟨below, hbase, hlayered, husable⟩
    obtain ⟨layer, hlayer, honto⟩ := layered_iff.mp hlayered
    exact Outcome.bind_eq_ok_iff.mpr ⟨below, base_eq_ok_iff.mpr hbase,
      Outcome.bind_eq_ok_iff.mpr ⟨layer, hlayer, check_eq_ok_iff.mpr ⟨honto, husable⟩⟩⟩

/-- The same variables over settings that agree where it matters come to the
same. -/
theorem Layered.agreeOn {p : Variable → Prop} (h : Layered env below s)
    (h' : Layered env' below' s') (henv : ∀ v, p v → env' v = env v)
    (hbelow : AgreeOn (fun v => p v ∧ env v = none) below below') : AgreeOn p s s' where
  listen hp := h.listen.unique h'.listen (henv _ hp) fun hnone => hbelow.listen ⟨hp, hnone⟩
  backendUrl hp := h.backendUrl.unique h'.backendUrl (henv _ hp) fun hnone =>
    hbelow.backendUrl ⟨hp, hnone⟩
  timeoutSeconds hp := h.timeoutSeconds.unique h'.timeoutSeconds (henv _ hp) fun hnone =>
    hbelow.timeoutSeconds ⟨hp, hnone⟩
  identityUrl hp := h.identityUrl.unique h'.identityUrl (henv _ hp) fun hnone =>
    hbelow.identityUrl ⟨hp, hnone⟩
  maxBody hp := h.maxBody.unique h'.maxBody (henv _ hp) fun hnone => hbelow.maxBody ⟨hp, hnone⟩

theorem AgreeOn.refl (p : Variable → Prop) (s : Settings) : AgreeOn p s s :=
  ⟨fun _ => rfl, fun _ => rfl, fun _ => rfl, fun _ => rfl, fun _ => rfl⟩

theorem AgreeOn.eq (h : AgreeOn (fun _ => True) s s') : s = s' := by
  cases s
  cases s'
  rw [mk.injEq]
  exact ⟨h.listen trivial, h.backendUrl trivial, h.timeoutSeconds trivial,
    h.identityUrl trivial, h.maxBody trivial⟩

/-- Changing one variable changes no other setting. -/
theorem agreeOn_of_load {w : Variable} (hw : w ≠ .settingsFile)
    (henv : ∀ v, v ≠ w → env' v = env v) (h : load env files = .ok s)
    (h' : load env' files = .ok s') : AgreeOn (· ≠ w) s s' := by
  obtain ⟨below, hbase, hlayered, -⟩ := load_eq_ok_iff.mp h
  obtain ⟨below', hbase', hlayered', -⟩ := load_eq_ok_iff.mp h'
  have hsame : below = below' := by
    rw [← base_eq_ok_iff] at hbase hbase'
    unfold base at hbase hbase'
    rw [henv _ (Ne.symm hw), hbase] at hbase'
    exact Except.ok.inj hbase'
  subst hsame
  exact hlayered.agreeOn hlayered' henv (AgreeOn.refl _ _)

/-- What is below does not matter where a variable is set. -/
theorem load_congr (hbase : IsBase env files below) (hbase' : IsBase env files' below')
    (hbelow : AgreeOn (fun v => env v = none) below below') :
    load env files = load env files' := by
  unfold load
  rw [base_eq_ok_iff.mpr hbase, base_eq_ok_iff.mpr hbase']
  show (env.layer >>= fun layer => (layer.onto below).check) =
    env.layer >>= fun layer => (layer.onto below').check
  cases hlayer : env.layer with
  | error fault => rfl
  | ok layer =>
      have hsame : layer.onto below = layer.onto below' :=
        AgreeOn.eq ((layered_iff.mpr ⟨layer, hlayer, rfl⟩).agreeOn
          (layered_iff.mpr ⟨layer, hlayer, rfl⟩) (fun _ _ => rfl) ⟨fun h => hbelow.1 h.2,
            fun h => hbelow.2 h.2, fun h => hbelow.3 h.2, fun h => hbelow.4 h.2,
            fun h => hbelow.5 h.2⟩)
      show (layer.onto below).check = (layer.onto below').check
      rw [hsame]

/-- **Settings come in layers.** Settings load exactly if the file that is named
can be read, every variable that is set can be read, and what comes out can be
used; then each setting is what its variable says, or else what the file says, or
else the standard one. So all settings that load can be used. One variable
changes no other setting. And what a file says about a setting whose variable is
set makes no difference, neither for the settings nor for what is wrong with
them, even if it could not be used. -/
theorem load_lays_environment_over_file (env : Environment) (files : Files) :
    (∀ s, load env files = .ok s ↔
      ∃ below, IsBase env files below ∧ Layered env below s ∧ s.Usable) ∧
    (∀ (env' : Environment) (w : Variable), w ≠ .settingsFile →
      (∀ v, v ≠ w → env' v = env v) → ∀ s s', load env files = .ok s →
        load env' files = .ok s' → AgreeOn (· ≠ w) s s') ∧
    ∀ (files' : Files) (below below' : Settings), IsBase env files below →
      IsBase env files' below' → AgreeOn (fun v => env v = none) below below' →
        load env files = load env files' := by
  refine ⟨fun s => load_eq_ok_iff, ?_, ?_⟩
  · intro env' w hw henv s s' h h'
    exact agreeOn_of_load hw henv h h'
  · intro files' below below' hbase hbase' hbelow
    exact load_congr hbase hbase' hbelow

/-- An environment that names a file, and a backend and a timeout besides. -/
def overFile : Environment
  | .settingsFile => some "gateway.yaml".toList
  | .backendUrl => some " http://jobs/ ".toList
  | .timeout => some "5".toList
  | _ => none

/-- A file with a backend for FTP and no time at all is accepted where the
environment names another backend and some time. -/
theorem unusable_file_is_forgiven :
    let files : Files := fun _ => .ok
      (octets "upstream_url: ftp://files\nrequest_timeout_secs: 0\nmax_body_bytes: 7\n")
    ∃ below s, IsBase overFile files below ∧ ¬ below.Usable ∧ load overFile files = .ok s ∧
      s.timeoutSeconds = 5 ∧ s.maxBody = 7 := by
  intro files
  have hfile : ((ofFile files "gateway.yaml".toList).toOption.any fun below =>
      below.timeoutSeconds = 0 && (below.maxBody = 7 && below.identityUrl.isWeb)) = true := by
    decide +kernel
  have hurl : (Url.ofTrimmed? " http://jobs/ ".toList).any Url.isWeb = true := by decide +kernel
  have hfive : Text.trimmedNumber? "5".toList = some 5 := by decide
  obtain ⟨below, hbelow, hgood⟩ := (Option.any_eq_true ..).mp hfile
  obtain ⟨htimeout, hgood⟩ := Bool.and_eq_true_iff.mp hgood
  obtain ⟨hmax, hidentity⟩ := Bool.and_eq_true_iff.mp hgood
  obtain ⟨url, hread, hweb⟩ := (Option.any_eq_true ..).mp hurl
  have hbase : IsBase overFile files below :=
    Or.inr ⟨_, rfl, Outcome.toOption_eq_some_iff.mp hbelow⟩
  have hlayered : Layered overFile below { below with backendUrl := url, timeoutSeconds := 5 } :=
    ⟨rfl, hread, hfive, rfl, rfl⟩
  refine ⟨below, _, hbase, ?_, ((load_lays_environment_over_file overFile files).1 _).mpr
    ⟨below, hbase, hlayered, usable_iff.mpr ⟨hweb, hidentity, by simp⟩⟩, rfl, ?_⟩
  · intro husable
    exact (usable_iff.mp husable).2.2 (of_decide_eq_true htimeout)
  · exact of_decide_eq_true hmax

end Settings

end JobsGateway
