import JobsGateway.Proofs.Settings.Layers
import JobsGateway.Proofs.Url.Prefix

/-!
# The first fault is the one that is reported

Settings go through nine checks in a fixed order: the file is read and its text
is understood, each variable is read, and then what came out is looked at. What
each check finds is said here without the others. Loading fails with what the
first failing check finds, and it succeeds exactly if no check fails.
-/

namespace JobsGateway

/-- The checks that settings go through. -/
inductive SettingsCheck where
  | fileIsRead
  | fileIsUnderstood
  | backendUrl
  | timeout
  | identityUrl
  | maxBody
  | backendScheme
  | identityScheme
  | someTime
  deriving Repr, DecidableEq

namespace SettingsCheck

open Settings (IsBase)

/-- All checks, in the order in which they are made. -/
def inOrder : List SettingsCheck :=
  [.fileIsRead, .fileIsUnderstood, .backendUrl, .timeout, .identityUrl, .maxBody, .backendScheme,
    .identityScheme, .someTime]

/-- A variable is set to what is no URL. -/
def UrlFails (env : Environment) (v : Variable) (fault : SettingsFault) : Prop :=
  ∃ raw e, env v = some raw ∧ Url.parse (Text.trim raw) = .error e ∧
    fault = .invalidUrl v raw e

/-- A variable is set to what is no number. -/
def NumberFails (env : Environment) (v : Variable) (fault : SettingsFault) : Prop :=
  ∃ raw, env v = some raw ∧ Text.trimmedNumber? raw = none ∧ fault = .invalidNumber v raw

/-- A URL, as it comes out of the variable and what is below it, has another
scheme than those of HTTP. -/
def SchemeFails (env : Environment) (files : Files) (v : Variable) (below : Settings → Url)
    (fault : SettingsFault) : Prop :=
  ∃ base url, IsBase env files base ∧ env.Settles v Url.ofTrimmed? (below base) url ∧
    url.scheme ≠ "http".toList ∧ url.scheme ≠ "https".toList ∧
      fault = .unsupportedScheme v url.scheme

/-- A check fails, and this is what it finds. -/
def Fails (env : Environment) (files : Files) (fault : SettingsFault) : SettingsCheck → Prop
  | .fileIsRead =>
    ∃ path e, env .settingsFile = some path ∧ files.readText path = .error e ∧
      fault = .unreadable path e
  | .fileIsUnderstood =>
    ∃ path text e, env .settingsFile = some path ∧ files.readText path = .ok text ∧
      SettingsFile.read text = .error e ∧ fault = .malformed path e
  | .backendUrl => UrlFails env .backendUrl fault
  | .timeout => NumberFails env .timeout fault
  | .identityUrl => UrlFails env .identityUrl fault
  | .maxBody => NumberFails env .maxBody fault
  | .backendScheme => SchemeFails env files .backendUrl Settings.backendUrl fault
  | .identityScheme => SchemeFails env files .identityUrl Settings.identityUrl fault
  | .someTime =>
    ∃ base, IsBase env files base ∧
      env.Settles .timeout Text.trimmedNumber? base.timeoutSeconds 0 ∧
        fault = .invalidNumber .timeout "0".toList

/-- Of a row of checks, the first one that fails finds this. -/
def FirstFails (env : Environment) (files : Files) (fault : SettingsFault) :
    List SettingsCheck → Prop
  | [] => False
  | check :: rest =>
    check.Fails env files fault ∨
      (∀ other, ¬ check.Fails env files other) ∧ FirstFails env files fault rest

variable {env : Environment} {files : Files} {fault : SettingsFault} {check : SettingsCheck}
  {rest : List SettingsCheck}

/-! ## Rows of checks -/

theorem firstFails_cons_of_pass (h : ∀ other, ¬ check.Fails env files other) :
    FirstFails env files fault (check :: rest) ↔ FirstFails env files fault rest := by
  rw [FirstFails]
  constructor
  · rintro (hfails | ⟨-, hrest⟩)
    · exact absurd hfails (h fault)
    · exact hrest
  · exact fun hrest => Or.inr ⟨h, hrest⟩

theorem firstFails_cons_of_fault {found : SettingsFault}
    (h : ∀ other, check.Fails env files other ↔ found = other) :
    FirstFails env files fault (check :: rest) ↔ found = fault := by
  rw [FirstFails, h fault]
  constructor
  · rintro (hfound | ⟨hpass, -⟩)
    · exact hfound
    · exact absurd ((h found).mpr rfl) (hpass found)
  · exact Or.inl

/-- **A step and what comes after it go through a row of checks**, if the step
makes the first of them and what comes after it the others. -/
theorem bind_eq_error_iff_firstFails {α β : Type} {step : Except SettingsFault α}
    {next : α → Except SettingsFault β}
    (hstep : ∀ other, check.Fails env files other ↔ step = .error other)
    (hnext : ∀ a, step = .ok a →
      (next a = .error fault ↔ FirstFails env files fault rest)) :
    step >>= next = .error fault ↔ FirstFails env files fault (check :: rest) := by
  cases h : step with
  | error found =>
      rw [firstFails_cons_of_fault fun other => by rw [hstep, h, Except.error.injEq]]
      show (Except.error found : Except SettingsFault β) = .error fault ↔ _
      rw [Except.error.injEq]
  | ok a =>
      rw [firstFails_cons_of_pass fun other => by rw [hstep, h]; simp]
      exact hnext a h

/-- No check of a row fails exactly if none is the first that fails. -/
theorem forall_not_firstFails_iff {checks : List SettingsCheck} :
    (∀ fault, ¬ FirstFails env files fault checks) ↔
      ∀ check ∈ checks, ∀ fault, ¬ check.Fails env files fault := by
  induction checks with
  | nil => simp [FirstFails]
  | cons check rest ih =>
      rw [List.forall_mem_cons, ← ih]
      constructor
      · intro h
        have hpass : ∀ fault, ¬ check.Fails env files fault :=
          fun fault hfails => h fault (Or.inl hfails)
        exact ⟨hpass, fun fault hrest => h fault (Or.inr ⟨hpass, hrest⟩)⟩
      · rintro ⟨hpass, hrest⟩ fault (hfails | ⟨-, hfirst⟩)
        · exact hpass fault hfails
        · exact hrest fault hfirst

/-! ## The variables -/

theorem urlFails_iff {v : Variable} : UrlFails env v fault ↔ env.url? v = .error fault := by
  unfold UrlFails Environment.url?
  cases env v with
  | none => simp
  | some raw => cases hparse : Url.parse (Text.trim raw) <;> simp [hparse, eq_comm]

theorem numberFails_iff {v : Variable} :
    NumberFails env v fault ↔ env.natural? v = .error fault := by
  unfold NumberFails Environment.natural? Text.trimmedNumber?
  cases env v with
  | none => simp
  | some raw => cases hread : Text.unsigned? (Text.trim raw) <;> simp [hread, eq_comm]

/-! ## What comes out -/

section Effective

variable {base : Settings} {layer : Layer}

theorem isBase_unique {other : Settings} (h : IsBase env files base)
    (h' : IsBase env files other) : other = base := by
  rw [← Settings.base_eq_ok_iff] at h h'
  exact Except.ok.inj (h'.symm.trans h)

/-- A check of what comes out looks at the settings that the layer makes. -/
theorem schemeFails_iff {v : Variable} {below : Settings → Url} {url : Url}
    (hbase : IsBase env files base) (hurl : env.Settles v Url.ofTrimmed? (below base) url) :
    SchemeFails env files v below fault ↔
      url.isWeb = false ∧ fault = .unsupportedScheme v url.scheme := by
  have hweb : url.isWeb = false ↔ url.scheme ≠ "http".toList ∧ url.scheme ≠ "https".toList := by
    rw [← Bool.not_eq_true, Url.isWeb_iff, not_or]
  rw [hweb]
  constructor
  · rintro ⟨base', url', hbase', hurl', hhttp, hhttps, rfl⟩
    obtain rfl := isBase_unique hbase hbase'
    obtain rfl := hurl.unique hurl' rfl fun _ => rfl
    exact ⟨⟨hhttp, hhttps⟩, rfl⟩
  · rintro ⟨⟨hhttp, hhttps⟩, rfl⟩
    exact ⟨base, url, hbase, hurl, hhttp, hhttps, rfl⟩

theorem someTime_fails_iff {seconds : Nat} (hbase : IsBase env files base)
    (htime : env.Settles .timeout Text.trimmedNumber? base.timeoutSeconds seconds) :
    someTime.Fails env files fault ↔
      seconds = 0 ∧ fault = .invalidNumber .timeout "0".toList := by
  constructor
  · rintro ⟨base', hbase', htime', rfl⟩
    obtain rfl := isBase_unique hbase hbase'
    exact ⟨htime.unique htime' rfl fun _ => rfl, rfl⟩
  · rintro ⟨rfl, rfl⟩
    exact ⟨base, hbase, htime, rfl⟩

/-- The last three checks look at the settings that come out. -/
theorem check_eq_error_iff (hbase : IsBase env files base) (hlayer : env.layer = .ok layer) :
    (layer.onto base).check = .error fault ↔
      FirstFails env files fault [.backendScheme, .identityScheme, .someTime] := by
  have hlayered : Settings.Layered env base (layer.onto base) :=
    Settings.layered_iff.mpr ⟨layer, hlayer, rfl⟩
  have hbackend (other : SettingsFault) :
      SchemeFails env files .backendUrl Settings.backendUrl other ↔ _ :=
    schemeFails_iff hbase hlayered.backendUrl
  have hidentity (other : SettingsFault) :
      SchemeFails env files .identityUrl Settings.identityUrl other ↔ _ :=
    schemeFails_iff hbase hlayered.identityUrl
  have htime (other : SettingsFault) : someTime.Fails env files other ↔ _ :=
    someTime_fails_iff hbase hlayered.timeoutSeconds
  unfold Settings.check
  cases hweb : (layer.onto base).backendUrl.isWeb with
  | false =>
      rw [firstFails_cons_of_fault fun other => by
        rw [Fails, hbackend, hweb, eq_comm (a := other), and_iff_right rfl]]
      simp
  | true =>
      rw [firstFails_cons_of_pass fun other => by rw [Fails, hbackend, hweb]; simp]
      cases hweb' : (layer.onto base).identityUrl.isWeb with
      | false =>
          rw [firstFails_cons_of_fault fun other => by
            rw [Fails, hidentity, hweb', eq_comm (a := other), and_iff_right rfl]]
          simp
      | true =>
          rw [firstFails_cons_of_pass fun other => by rw [Fails, hidentity, hweb']; simp]
          by_cases hzero : (layer.onto base).timeoutSeconds = 0
          · rw [firstFails_cons_of_fault fun other => by
              rw [htime, and_iff_right hzero, eq_comm]]
            simp [hzero]
          · rw [firstFails_cons_of_pass fun other => by rw [htime]; simp [hzero]]
            simp [hzero, FirstFails]

end Effective

/-! ## All checks -/

/-- The checks of the variables, and of what comes out over what is below. -/
theorem layer_eq_error_iff {base : Settings} (hbase : IsBase env files base) :
    (env.layer >>= fun layer => (layer.onto base).check) = .error fault ↔
      FirstFails env files fault
        [.backendUrl, .timeout, .identityUrl, .maxBody, .backendScheme, .identityScheme,
          .someTime] := by
  unfold Environment.layer
  simp only [bind_assoc, pure_bind]
  refine bind_eq_error_iff_firstFails (fun other => urlFails_iff) fun backendUrl hbackend => ?_
  refine bind_eq_error_iff_firstFails (fun other => numberFails_iff) fun timeout htimeout => ?_
  refine bind_eq_error_iff_firstFails (fun other => urlFails_iff) fun identityUrl hidentity => ?_
  refine bind_eq_error_iff_firstFails (fun other => numberFails_iff) fun maxBody hmax => ?_
  refine check_eq_error_iff hbase ?_
  unfold Environment.layer
  rw [hbackend, htimeout, hidentity, hmax]
  rfl

/-- **Loading fails with what the first failing check finds.** -/
theorem load_eq_error_iff :
    Settings.load env files = .error fault ↔ FirstFails env files fault inOrder := by
  unfold Settings.load Settings.base
  cases hset : env .settingsFile with
  | none =>
      have hread : ∀ other, ¬ fileIsRead.Fails env files other := by
        rintro other ⟨path, e, hpath, -⟩
        rw [hset] at hpath
        cases hpath
      have hunderstood : ∀ other, ¬ fileIsUnderstood.Fails env files other := by
        rintro other ⟨path, text, e, hpath, -⟩
        rw [hset] at hpath
        cases hpath
      rw [inOrder, firstFails_cons_of_pass hread, firstFails_cons_of_pass hunderstood]
      exact layer_eq_error_iff (Or.inl ⟨hset, rfl⟩)
  | some path =>
      dsimp only
      unfold Settings.ofFile
      simp only [bind_assoc, pure_bind]
      refine bind_eq_error_iff_firstFails (fun other => ?_) fun text htext => ?_
      · rw [Outcome.mapError_eq_error_iff]
        simp [Fails, hset, eq_comm]
      rw [Outcome.mapError_eq_ok_iff] at htext
      refine bind_eq_error_iff_firstFails (fun other => ?_) fun layer hlayer => ?_
      · rw [Outcome.mapError_eq_error_iff]
        simp [Fails, hset, htext, eq_comm]
      refine layer_eq_error_iff (Or.inr ⟨path, hset, ?_⟩)
      exact Outcome.bind_eq_ok_iff.mpr
        ⟨text, Outcome.mapError_eq_ok_iff.mpr htext,
          Outcome.bind_eq_ok_iff.mpr ⟨layer, hlayer, rfl⟩⟩

theorem exists_load_iff :
    (∃ s, Settings.load env files = .ok s) ↔
      ∀ check ∈ inOrder, ∀ fault, ¬ check.Fails env files fault := by
  rw [← forall_not_firstFails_iff]
  simp only [← load_eq_error_iff]
  cases Settings.load env files with
  | error found => simp
  | ok s => simp

/-! ## What is pointed at -/

/-- What a row of checks finds is found by one of them. -/
theorem FirstFails.exists_fails {checks : List SettingsCheck}
    (h : FirstFails env files fault checks) : ∃ check ∈ checks, check.Fails env files fault := by
  induction checks with
  | nil => exact h.elim
  | cons check rest ih =>
      obtain hfails | ⟨-, hrest⟩ := h
      · exact ⟨check, List.mem_cons_self, hfails⟩
      · obtain ⟨later, hlater, hfails⟩ := ih hrest
        exact ⟨later, List.mem_cons_of_mem check hlater, hfails⟩

theorem exists_fails_of_load (h : Settings.load env files = .error fault) :
    ∃ check : SettingsCheck, check.Fails env files fault := by
  obtain ⟨check, -, hfails⟩ := (load_eq_error_iff.mp h).exists_fails
  exact ⟨check, hfails⟩

/-- What is no URL stands in one of the two variables for URLs. -/
theorem set_of_invalidUrl {check : SettingsCheck} {v : Variable} {value : Text} {e : UrlError}
    (h : check.Fails env files (.invalidUrl v value e)) :
    (v = .backendUrl ∨ v = .identityUrl) ∧ env v = some value ∧
      Url.parse (Text.trim value) = .error e := by
  cases check with
  | backendUrl =>
      obtain ⟨raw, _, hset, hparse, hfault⟩ := h
      cases hfault
      exact ⟨Or.inl rfl, hset, hparse⟩
  | identityUrl =>
      obtain ⟨raw, _, hset, hparse, hfault⟩ := h
      cases hfault
      exact ⟨Or.inr rfl, hset, hparse⟩
  | fileIsRead | fileIsUnderstood | timeout | maxBody | backendScheme | identityScheme | someTime =>
      simp [Fails, NumberFails, SchemeFails] at h

/-- What is no number stands in one of the two variables for numbers, unless it
is the zero that a timeout came to. -/
theorem set_or_zero_of_invalidNumber {check : SettingsCheck} {v : Variable} {value : Text}
    (h : check.Fails env files (.invalidNumber v value)) :
    (v = .timeout ∨ v = .maxBody) ∧ env v = some value ∧ Text.trimmedNumber? value = none ∨
      v = .timeout ∧ value = "0".toList ∧ someTime.Fails env files (.invalidNumber v value) := by
  cases check with
  | timeout =>
      obtain ⟨raw, hset, hread, hfault⟩ := h
      cases hfault
      exact Or.inl ⟨Or.inl rfl, hset, hread⟩
  | maxBody =>
      obtain ⟨raw, hset, hread, hfault⟩ := h
      cases hfault
      exact Or.inl ⟨Or.inr rfl, hset, hread⟩
  | someTime =>
      obtain ⟨base, hbase, htime, hfault⟩ := h
      cases hfault
      exact Or.inr ⟨rfl, rfl, base, hbase, htime, rfl⟩
  | fileIsRead | fileIsUnderstood | backendUrl | identityUrl | backendScheme | identityScheme =>
      simp [Fails, UrlFails, SchemeFails] at h

/-- A URL that comes out has a scheme in lower case, like every URL that was
read. -/
theorem SchemeFails.lower {v w : Variable} {below : Settings → Url} {scheme : Text}
    (hread : ∀ s : Settings, s.UrlsRead → (below s).WasRead)
    (h : SchemeFails env files v below (.unsupportedScheme w scheme)) :
    scheme.map Char.toLower = scheme := by
  obtain ⟨base, url, hbase, hurl, -, -, hfault⟩ := h
  cases hfault
  have hurlRead : url.WasRead := by
    cases hset : env v with
    | none =>
        rw [Environment.settles_of_none hset] at hurl
        rw [hurl]
        exact hread base (Settings.urlsRead_of_base (Settings.base_eq_ok_iff.mpr hbase))
    | some raw =>
        rw [Environment.settles_of_some hset] at hurl
        exact ⟨_, Outcome.toOption_eq_some_iff.mp hurl⟩
  obtain ⟨text, hparse⟩ := hurlRead
  exact (Url.isScheme_of_parse hparse).lower

theorem lower_of_unsupportedScheme {check : SettingsCheck} {v : Variable} {scheme : Text}
    (h : check.Fails env files (.unsupportedScheme v scheme)) :
    scheme.map Char.toLower = scheme := by
  cases check with
  | backendScheme => exact SchemeFails.lower (fun _ => Settings.UrlsRead.backend) h
  | identityScheme => exact SchemeFails.lower (fun _ => Settings.UrlsRead.identity) h
  | fileIsRead | fileIsUnderstood | backendUrl | timeout | identityUrl | maxBody | someTime =>
      simp [Fails, UrlFails, NumberFails] at h

end SettingsCheck

namespace Settings

open SettingsCheck (FirstFails)

/-- **The first fault is the one that is reported.** Loading fails with what the
first failing check finds, and it succeeds exactly if no check fails. What is no
URL and what is no number is reported with the variable that is set to it, and as
it is written there, blanks and all. Only a timeout that comes to zero is always
the `0` of its variable, wherever it came from and however it was written. A
scheme is reported in lower case. -/
theorem load_reports_first_fault (env : Environment) (files : Files) :
    (∀ fault, load env files = .error fault ↔
      FirstFails env files fault SettingsCheck.inOrder) ∧
    ((∃ s, load env files = .ok s) ↔
      ∀ check ∈ SettingsCheck.inOrder, ∀ fault, ¬ check.Fails env files fault) ∧
    (∀ v value e, load env files = .error (.invalidUrl v value e) →
      (v = .backendUrl ∨ v = .identityUrl) ∧ env v = some value ∧
        Url.parse (Text.trim value) = .error e) ∧
    (∀ v value, load env files = .error (.invalidNumber v value) →
      (v = .timeout ∨ v = .maxBody) ∧ env v = some value ∧ Text.trimmedNumber? value = none ∨
        v = .timeout ∧ value = "0".toList ∧
          SettingsCheck.someTime.Fails env files (.invalidNumber v value)) ∧
    ∀ v scheme, load env files = .error (.unsupportedScheme v scheme) →
      scheme.map Char.toLower = scheme := by
  refine ⟨fun fault => SettingsCheck.load_eq_error_iff, SettingsCheck.exists_load_iff, ?_, ?_, ?_⟩
  · intro v value e h
    obtain ⟨check, hfails⟩ := SettingsCheck.exists_fails_of_load h
    exact SettingsCheck.set_of_invalidUrl hfails
  · intro v value h
    obtain ⟨check, hfails⟩ := SettingsCheck.exists_fails_of_load h
    exact SettingsCheck.set_or_zero_of_invalidNumber hfails
  · intro v scheme h
    obtain ⟨check, hfails⟩ := SettingsCheck.exists_fails_of_load h
    exact SettingsCheck.lower_of_unsupportedScheme hfails

/-- An environment in which a timeout, a URL, a number and a scheme are wrong. -/
def allWrong : Environment
  | .backendUrl => some "ftp://jobs".toList
  | .timeout => some " soon ".toList
  | .identityUrl => some "nonsense".toList
  | .maxBody => some "-1".toList
  | _ => none

/-- The timeout comes first, and is reported with the blanks around it. -/
theorem soon_is_reported :
    load allWrong (fun _ => .error .missing) = .error (.invalidNumber .timeout " soon ".toList) ∧
      Text.trimmedNumber? " soon ".toList = none := by
  have hbackend : ∀ other, ¬ SettingsCheck.backendUrl.Fails allWrong (fun _ => .error .missing)
      other := by
    rintro other ⟨raw, e, hset, hparse, -⟩
    cases hset
    have hread : (Url.parse (Text.trim "ftp://jobs".toList)).toOption.isSome = true := by
      decide +kernel
    rw [hparse] at hread
    cases hread
  have hunset : ∀ path, allWrong .settingsFile ≠ some path := by
    rintro path ⟨⟩
  have hload : load allWrong (fun _ => .error .missing) =
      .error (.invalidNumber .timeout " soon ".toList) := by
    refine ((load_reports_first_fault allWrong fun _ => .error .missing).1 _).mpr ?_
    refine Or.inr ⟨?_, Or.inr ⟨?_, Or.inr ⟨hbackend, Or.inl ⟨_, rfl, by decide, rfl⟩⟩⟩⟩
    · rintro other ⟨path, e, hset, -⟩
      exact hunset path hset
    · rintro other ⟨path, text, e, hset, -⟩
      exact hunset path hset
  obtain ⟨-, -, hread⟩ | ⟨-, hzero, -⟩ :=
    (load_reports_first_fault allWrong fun _ => .error .missing).2.2.2.1 _ _ hload
  · exact ⟨hload, hread⟩
  · exact absurd hzero (by decide)

end Settings

end JobsGateway
