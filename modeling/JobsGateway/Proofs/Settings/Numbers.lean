import JobsGateway.Proofs.Settings.Faults
import JobsGateway.Proofs.Text.Numeral

/-!
# Numbers in the environment

A variable for a number holds a text. If the text spells a number that fits a
64-bit field, the setting is that number, and it is never another one. If not,
the text itself is what is wrong. A body may have no octets, but no time at all
is refused.
-/

namespace JobsGateway

open Text (Spells trimmedNumber? digits)

theorem Text.trimmedNumber?_eq_some_iff {raw : Text} {n : Nat} :
    trimmedNumber? raw = some n ↔ Spells raw n ∧ n < 2 ^ 64 := by
  rw [trimmedNumber?, unsigned?_eq_some_iff, spells_iff]
  rfl

theorem Text.trimmedNumber?_eq_none_iff {raw : Text} :
    trimmedNumber? raw = none ↔ ¬ ∃ n, Spells raw n ∧ n < 2 ^ 64 := by
  rw [Option.eq_none_iff_forall_ne_some, not_exists]
  exact forall_congr' fun n => not_congr trimmedNumber?_eq_some_iff

namespace SettingsCheck

variable {env : Environment} {files : Files} {fault : SettingsFault}
  {suspects : List SettingsCheck}

/-- No check fails, except perhaps some of a row. -/
def OthersPass (env : Environment) (files : Files) (suspects : List SettingsCheck) : Prop :=
  ∀ check ∉ suspects, ∀ fault, ¬ check.Fails env files fault

theorem othersPass_of_load {s : Settings} (h : Settings.load env files = .ok s) :
    OthersPass env files suspects := by
  intro check _ fault
  have hmem : check ∈ inOrder := by cases check <;> decide
  exact exists_load_iff.mp ⟨s, h⟩ check hmem fault

/-- If only these can fail, settings load or one of these says why not. -/
theorem OthersPass.load (h : OthersPass env files suspects) :
    (∃ s, Settings.load env files = .ok s) ∨
      ∃ check ∈ suspects, ∃ fault, check.Fails env files fault ∧
        Settings.load env files = .error fault := by
  cases hload : Settings.load env files with
  | ok s => exact Or.inl ⟨s, rfl⟩
  | error fault =>
      obtain ⟨check, hfails⟩ := exists_fails_of_load hload
      by_cases hmem : check ∈ suspects
      · exact Or.inr ⟨check, hmem, fault, hfails, rfl⟩
      · exact absurd hfails (h check hmem fault)

theorem numberFails_of_set {v : Variable} {raw : Text} (hset : env v = some raw) :
    NumberFails env v fault ↔ trimmedNumber? raw = none ∧ fault = .invalidNumber v raw := by
  constructor
  · rintro ⟨found, hfound, hread, rfl⟩
    obtain rfl := Option.some.inj (hset.symm.trans hfound)
    exact ⟨hread, rfl⟩
  · rintro ⟨hread, rfl⟩
    exact ⟨raw, hset, hread, rfl⟩

theorem zero_of_someTime {raw : Text} (hset : env .timeout = some raw)
    (h : someTime.Fails env files fault) :
    trimmedNumber? raw = some 0 ∧ fault = .invalidNumber .timeout "0".toList := by
  obtain ⟨below, -, htime, rfl⟩ := h
  exact ⟨(Environment.settles_of_some hset).mp htime, rfl⟩

end SettingsCheck

namespace Settings

open SettingsCheck (OthersPass)

variable {env : Environment} {files : Files} {raw : Text}

/-- What comes of a number in a variable. Settings load with a number exactly if
it is the one that is spelt there, fits and is allowed. Where no number that fits
is spelt, the text is reported as it is. -/
structure ReadsNumber (env : Environment) (files : Files) (v : Variable) (raw : Text)
    (field : Settings → Nat) (allowed : Nat → Prop) : Prop where
  read : ∀ n, (∃ s, load env files = .ok s ∧ field s = n) ↔
    Spells raw n ∧ n < 2 ^ 64 ∧ allowed n
  reported : (¬ ∃ n, Spells raw n ∧ n < 2 ^ 64) →
    load env files = .error (.invalidNumber v raw)

/-- A number is read if it is taken over, or is not allowed, or is not there. -/
theorem ReadsNumber.of_cases {v : Variable} {field : Settings → Nat} {allowed : Nat → Prop}
    (h : (∃ s, load env files = .ok s ∧ trimmedNumber? raw = some (field s) ∧ allowed (field s)) ∨
      (∃ n fault, trimmedNumber? raw = some n ∧ ¬ allowed n ∧ load env files = .error fault) ∨
      (trimmedNumber? raw = none ∧ load env files = .error (.invalidNumber v raw))) :
    ReadsNumber env files v raw field allowed where
  read n := by
    rw [← and_assoc, ← Text.trimmedNumber?_eq_some_iff]
    rcases h with ⟨s, hload, hread, hallowed⟩ | ⟨m, fault, hread, hrefused, hload⟩ | ⟨hread, hload⟩
    · rw [hload, hread]
      constructor
      · rintro ⟨s', hs', rfl⟩
        obtain rfl := Except.ok.inj hs'
        exact ⟨rfl, hallowed⟩
      · rintro ⟨hn, -⟩
        exact ⟨s, rfl, Option.some.inj hn⟩
    · rw [hload, hread]
      constructor
      · rintro ⟨s, hs, -⟩
        cases hs
      · rintro ⟨hn, hallowed⟩
        exact absurd (Option.some.inj hn ▸ hallowed) hrefused
    · rw [hload, hread]
      simp
  reported hno := by
    rw [← Text.trimmedNumber?_eq_none_iff] at hno
    rcases h with ⟨s, -, hread, -⟩ | ⟨m, fault, hread, -⟩ | ⟨-, hload⟩
    · rw [hno] at hread
      cases hread
    · rw [hno] at hread
      cases hread
    · exact hload

/-- A timeout is taken over, or it is no time at all, or it is no number. -/
theorem load_timeout_cases (hset : env .timeout = some raw)
    (hothers : OthersPass env files [.timeout, .someTime]) :
    (∃ s, load env files = .ok s ∧ trimmedNumber? raw = some s.timeoutSeconds ∧
        s.timeoutSeconds ≠ 0) ∨
      (trimmedNumber? raw = some 0 ∧
        load env files = .error (.invalidNumber .timeout "0".toList)) ∨
      (trimmedNumber? raw = none ∧ load env files = .error (.invalidNumber .timeout raw)) := by
  obtain ⟨s, hload⟩ | ⟨check, hmem, fault, hfails, hload⟩ := hothers.load
  · obtain ⟨below, -, hlayered, husable⟩ := load_eq_ok_iff.mp hload
    exact Or.inl ⟨s, hload, (Environment.settles_of_some hset).mp hlayered.timeoutSeconds,
      Nat.one_le_iff_ne_zero.mp husable.timeoutSeconds⟩
  · simp only [List.mem_cons, List.not_mem_nil, or_false] at hmem
    rcases hmem with rfl | rfl
    · obtain ⟨hread, rfl⟩ := (SettingsCheck.numberFails_of_set hset).mp hfails
      exact Or.inr (Or.inr ⟨hread, hload⟩)
    · obtain ⟨hread, rfl⟩ := SettingsCheck.zero_of_someTime hset hfails
      exact Or.inr (Or.inl ⟨hread, hload⟩)

/-- A longest body is taken over, or it is no number. -/
theorem load_maxBody_cases (hset : env .maxBody = some raw)
    (hothers : OthersPass env files [.maxBody]) :
    (∃ s, load env files = .ok s ∧ trimmedNumber? raw = some s.maxBody) ∨
      (trimmedNumber? raw = none ∧ load env files = .error (.invalidNumber .maxBody raw)) := by
  obtain ⟨s, hload⟩ | ⟨check, hmem, fault, hfails, hload⟩ := hothers.load
  · obtain ⟨below, -, hlayered, -⟩ := load_eq_ok_iff.mp hload
    exact Or.inl ⟨s, hload, (Environment.settles_of_some hset).mp hlayered.maxBody⟩
  · obtain rfl := List.mem_singleton.mp hmem
    obtain ⟨hread, rfl⟩ := (SettingsCheck.numberFails_of_set hset).mp hfails
    exact Or.inr ⟨hread, hload⟩

theorem readsNumber_timeout (hset : env .timeout = some raw)
    (hothers : OthersPass env files [.timeout, .someTime]) :
    ReadsNumber env files .timeout raw timeoutSeconds (· ≠ 0) := by
  apply ReadsNumber.of_cases
  rcases load_timeout_cases hset hothers with htaken | ⟨hread, hload⟩ | hnone
  · exact Or.inl htaken
  · exact Or.inr (Or.inl ⟨0, _, hread, fun hne => hne rfl, hload⟩)
  · exact Or.inr (Or.inr hnone)

theorem readsNumber_maxBody (hset : env .maxBody = some raw)
    (hothers : OthersPass env files [.maxBody]) :
    ReadsNumber env files .maxBody raw maxBody (fun _ => True) := by
  apply ReadsNumber.of_cases
  rcases load_maxBody_cases hset hothers with ⟨s, hload, hread⟩ | hnone
  · exact Or.inl ⟨s, hload, hread, trivial⟩
  · exact Or.inr (Or.inr hnone)

/-- No time at all is refused, however it is spelt. -/
theorem load_of_zero_timeout (hset : env .timeout = some raw)
    (hothers : OthersPass env files [.timeout, .someTime]) (hzero : Spells raw 0) :
    load env files = .error (.invalidNumber .timeout "0".toList) := by
  have hread := Text.trimmedNumber?_eq_some_iff.mpr ⟨hzero, by decide⟩
  rcases load_timeout_cases hset hothers with ⟨s, -, htaken, hne⟩ | ⟨-, hload⟩ | ⟨hnone, -⟩
  · exact absurd (Option.some.inj (htaken.symm.trans hread)) hne
  · exact hload
  · rw [hread] at hnone
    cases hnone

/-- **Numbers are read as they are spelt.** If nothing else is wrong, settings
load with a timeout or a longest body exactly if its variable spells that number
(blanks, perhaps a plus sign, digits, blanks) and it is below 2^64; only a timeout
may not be zero, and then it is the zero that is reported. A variable that spells
no such number is reported as it is. The digits of a number with blanks around
them spell that number and no other, so below 2^64 it is read back, and from there
on nothing is. -/
theorem numbers_are_read_as_spelt (env : Environment) (files : Files) (raw : Text) :
    (env .timeout = some raw → OthersPass env files [.timeout, .someTime] →
      ReadsNumber env files .timeout raw timeoutSeconds (· ≠ 0) ∧
        (Spells raw 0 → load env files = .error (.invalidNumber .timeout "0".toList))) ∧
    (env .maxBody = some raw → OthersPass env files [.maxBody] →
      ReadsNumber env files .maxBody raw maxBody (fun _ => True)) ∧
    ∀ (n : Nat) (before after : Text), (∀ c ∈ before, Text.isBlank c = true) →
      (∀ c ∈ after, Text.isBlank c = true) →
        (∀ m, Spells (before ++ digits n ++ after) m ↔ m = n) ∧
          trimmedNumber? (before ++ digits n ++ after) = if n < 2 ^ 64 then some n else none := by
  refine ⟨fun hset hothers => ⟨readsNumber_timeout hset hothers,
    load_of_zero_timeout hset hothers⟩, readsNumber_maxBody, ?_⟩
  intro n before after hbefore hafter
  have hspells : Spells (before ++ digits n ++ after) n :=
    ⟨before, digits n, after, rfl, Text.isNumeral_digits n, hbefore, hafter⟩
  refine ⟨fun m => ⟨fun hm => hm.unique hspells, fun hm => hm ▸ hspells⟩, ?_⟩
  split
  · rename_i hfits
    exact Text.trimmedNumber?_eq_some_iff.mpr ⟨hspells, hfits⟩
  · rename_i hlarge
    rw [Text.trimmedNumber?_eq_none_iff]
    rintro ⟨m, hm, hfits⟩
    exact hlarge (hm.unique hspells ▸ hfits)

/-- An environment that names a timeout and a longest body. -/
def onlyNumbers (timeout maxBody : String) : Environment
  | .timeout => some timeout.toList
  | .maxBody => some maxBody.toList
  | _ => none

/-- Blanks, a plus sign and zeros do not count, a body may be empty, and one more
than the largest number is none. -/
theorem padded_seven_is_read :
    let env := onlyNumbers "\u3000+007\n" "000"
    let files : Files := fun _ => .error .missing
    (∃ s, load env files = .ok s ∧ s.timeoutSeconds = 7) ∧
      (∃ s, load env files = .ok s ∧ s.maxBody = 0) ∧
      trimmedNumber? (" ".toList ++ digits 18446744073709551616 ++ []) = none := by
  intro env files
  have hloads : (load env files).toOption.isSome = true := by decide +kernel
  obtain ⟨s, hs⟩ := Option.isSome_iff_exists.mp hloads
  rw [Outcome.toOption_eq_some_iff] at hs
  have hseven : Spells "\u3000+007\n".toList 7 :=
    ⟨['\u3000'], "+007".toList, ['\n'], by decide,
      ⟨['+'], "007".toList, rfl, Or.inr rfl, by decide, List.all_eq_true.mp (by decide),
        by decide⟩,
      List.all_eq_true.mp (by decide), List.all_eq_true.mp (by decide)⟩
  have hzero : Spells "000".toList 0 :=
    ⟨[], "000".toList, [], by decide,
      ⟨[], "000".toList, rfl, Or.inl rfl, by decide, List.all_eq_true.mp (by decide),
        by decide⟩,
      by simp, by simp⟩
  obtain ⟨htimeout, -, -⟩ := numbers_are_read_as_spelt env files "\u3000+007\n".toList
  obtain ⟨-, hmax, hdigits⟩ := numbers_are_read_as_spelt env files "000".toList
  have hothers : ∀ suspects, OthersPass env files suspects :=
    fun _ => SettingsCheck.othersPass_of_load hs
  refine ⟨((htimeout rfl (hothers _)).1.read 7).mpr ⟨hseven, by decide, by decide⟩,
    ((hmax rfl (hothers _)).read 0).mpr ⟨hzero, by decide, trivial⟩, ?_⟩
  rw [(hdigits 18446744073709551616 " ".toList [] (List.all_eq_true.mp (by decide))
    (by simp)).2]
  rfl

end Settings

end JobsGateway
