import JobsGateway.Proofs.Route.Dispatch
import Mathlib.Data.List.Nodup

/-!
# Which pattern a path leads to

A pattern fits the segments of a path if its literals stand there and no
parameter would be empty. Several patterns may fit. The search prefers the one
that has a literal where two of them first differ in kind, and comes back from
literals that lead nowhere, so it finds nothing only where no pattern fits.
-/

namespace JobsGateway

/-! ## Patterns and paths -/

/-- A pattern fits the segments of a path: a literal stands for itself, and a
parameter for any segment that is not empty. -/
inductive Fits : List Segment → List Text → Prop
  | done : Fits [] []
  | literal {text : Text} {pattern : List Segment} {path : List Text} :
      Fits pattern path → Fits (.literal text :: pattern) (text :: path)
  | param {name value : Text} {pattern : List Segment} {path : List Text} :
      value ≠ [] → Fits pattern path → Fits (.param name :: pattern) (value :: path)

/-- The first pattern goes before the second: where they first differ in kind,
it has the literal. -/
inductive Preferred : List Segment → List Segment → Prop
  | here {text name : Text} {p q : List Segment} :
      Preferred (.literal text :: p) (.param name :: q)
  | literal {s t : Text} {p q : List Segment} :
      Preferred p q → Preferred (.literal s :: p) (.literal t :: q)
  | param {m n : Text} {p q : List Segment} :
      Preferred p q → Preferred (.param m :: p) (.param n :: q)

/-- What a pattern says apart from the names of its parameters. -/
def shape (pattern : List Segment) : List (Option Text) :=
  pattern.map fun
    | .literal text => some text
    | .param _ => none

theorem Preferred.asymm {p q : List Segment} (h : Preferred p q) : ¬ Preferred q p := by
  induction h with
  | here => intro h; cases h
  | literal _ ih =>
      intro h
      cases h with
      | literal h => exact ih h
  | param _ ih =>
      intro h
      cases h with
      | param h => exact ih h

/-- Of two patterns that fit one path, one goes before the other, or they are
alike. -/
theorem Fits.preferred_or_shape {p q : List Segment} {path : List Text} (hp : Fits p path)
    (hq : Fits q path) : Preferred p q ∨ Preferred q p ∨ shape p = shape q := by
  induction hp generalizing q with
  | done =>
      cases hq
      exact Or.inr (Or.inr rfl)
  | literal _ ih =>
      cases hq with
      | literal hq =>
          rcases ih hq with h | h | h
          · exact Or.inl h.literal
          · exact Or.inr (Or.inl h.literal)
          · refine Or.inr (Or.inr ?_)
            show _ :: shape _ = _ :: shape _
            rw [h]
      | param _ _ => exact Or.inl .here
  | param _ _ ih =>
      cases hq with
      | literal _ => exact Or.inr (Or.inl .here)
      | param _ hq =>
          rcases ih hq with h | h | h
          · exact Or.inl h.param
          · exact Or.inr (Or.inl h.param)
          · refine Or.inr (Or.inr ?_)
            show _ :: shape _ = _ :: shape _
            rw [h]

theorem fits_nil_iff {pattern : List Segment} : Fits pattern [] ↔ pattern = [] := by
  constructor
  · intro h
    cases h
    rfl
  · rintro rfl
    exact .done

theorem fits_literal_iff {text segment : Text} {pattern : List Segment} {path : List Text} :
    Fits (.literal text :: pattern) (segment :: path) ↔ text = segment ∧ Fits pattern path := by
  constructor
  · intro h
    cases h with
    | literal h => exact ⟨rfl, h⟩
  · rintro ⟨rfl, h⟩
    exact h.literal

theorem fits_param_iff {name segment : Text} {pattern : List Segment} {path : List Text} :
    Fits (.param name :: pattern) (segment :: path) ↔ segment ≠ [] ∧ Fits pattern path := by
  constructor
  · intro h
    cases h with
    | param hne h => exact ⟨hne, h⟩
  · rintro ⟨hne, h⟩
    exact h.param hne

instance Fits.decidable : (pattern : List Segment) → (path : List Text) →
    Decidable (Fits pattern path)
  | [], [] => isTrue .done
  | [], _ :: _ => isFalse nofun
  | _ :: _, [] => isFalse nofun
  | .literal _ :: pattern, _ :: path =>
    have := Fits.decidable pattern path
    decidable_of_iff _ fits_literal_iff.symm
  | .param _ :: pattern, _ :: path =>
    have := Fits.decidable pattern path
    decidable_of_iff _ fits_param_iff.symm

instance Preferred.decidable : (p q : List Segment) → Decidable (Preferred p q)
  | .literal _ :: _, .param _ :: _ => isTrue .here
  | .literal _ :: p, .literal _ :: q =>
    have := Preferred.decidable p q
    decidable_of_iff (Preferred p q) ⟨.literal, fun | .literal h => h⟩
  | .param _ :: p, .param _ :: q =>
    have := Preferred.decidable p q
    decidable_of_iff (Preferred p q) ⟨.param, fun | .param h => h⟩
  | .param _ :: _, .literal _ :: _ => isFalse nofun
  | [], _ => isFalse nofun
  | _ :: _, [] => isFalse nofun

namespace Dispatch

variable {α : Type} {candidates : List (List Segment × α)} {text : Text} {path : List Text}

/-! ## One step of the search -/

theorem mem_afterLiteral_of_mem {rest : List Segment} {a : α}
    (h : (.literal text :: rest, a) ∈ candidates) : (rest, a) ∈ afterLiteral text candidates :=
  List.mem_filterMap.mpr ⟨_, h, by simp⟩

theorem mem_afterParam_of_mem {name : Text} {rest : List Segment} {a : α}
    (h : (.param name :: rest, a) ∈ candidates) : (rest, a) ∈ afterParam candidates :=
  List.mem_filterMap.mpr ⟨_, h, rfl⟩

/-- Some candidate fits. -/
def AnyFits (candidates : List (List Segment × α)) (path : List Text) : Prop :=
  ∃ c ∈ candidates, Fits c.1 path

theorem anyFits_cons_iff : AnyFits candidates (text :: path) ↔
    AnyFits (afterLiteral text candidates) path ∨
      (text ≠ [] ∧ AnyFits (afterParam candidates) path) := by
  constructor
  · rintro ⟨⟨pattern, a⟩, hmem, hfits⟩
    cases hfits with
    | literal hfits => exact Or.inl ⟨_, mem_afterLiteral_of_mem hmem, hfits⟩
    | param hne hfits => exact Or.inr ⟨hne, _, mem_afterParam_of_mem hmem, hfits⟩
  · rintro (⟨⟨rest, a⟩, hmem, hfits⟩ | ⟨hne, ⟨rest, a⟩, hmem, hfits⟩)
    · exact ⟨_, mem_of_mem_afterLiteral hmem, hfits.literal⟩
    · obtain ⟨name, hmem⟩ := mem_of_mem_afterParam hmem
      exact ⟨_, hmem, hfits.param hne⟩

/-- The search turns to the parameters only where no literal leads to the end. -/
theorem select_cons (candidates : List (List Segment × α)) (text : Text) (path : List Text) :
    select candidates (text :: path) =
      (select (afterLiteral text candidates) path).or
        (if text = [] then none else select (afterParam candidates) path) := by
  rw [select]
  cases select (afterLiteral text candidates) path <;> rfl

/-! ## The whole search -/

/-- The search ends without an answer exactly if no candidate fits. -/
theorem select_eq_none_iff : select candidates path = none ↔ ¬ AnyFits candidates path := by
  induction path generalizing candidates with
  | nil =>
      rw [select, Option.map_eq_none_iff, List.find?_eq_none, AnyFits]
      simp only [fits_nil_iff, List.isEmpty_iff, not_exists, not_and]
  | cons text path ih =>
      rw [select_cons, Option.or_eq_none_iff, ih, anyFits_cons_iff]
      by_cases htext : text = []
      · simp [htext]
      · simp [htext, ih]

/-- **What the search finds fits, and nothing that fits goes before it.** -/
theorem preferred_of_select {a : α} (h : select candidates path = some a) :
    ∃ pattern, (pattern, a) ∈ candidates ∧ Fits pattern path ∧
      ∀ c ∈ candidates, Fits c.1 path → ¬ Preferred c.1 pattern := by
  induction path generalizing candidates with
  | nil =>
      obtain ⟨⟨pattern, b⟩, hfind, rfl⟩ := Option.map_eq_some_iff.mp h
      have hempty : pattern = [] := by simpa using List.find?_some hfind
      subst hempty
      refine ⟨[], List.mem_of_find?_eq_some hfind, .done, ?_⟩
      rintro ⟨other, b⟩ _ _ hc
      cases hc
  | cons text path ih =>
      rw [select_cons] at h
      cases hliteral : select (afterLiteral text candidates) path with
      | some b =>
          rw [hliteral] at h
          cases h
          obtain ⟨rest, hmem, hfits, hfirst⟩ := ih hliteral
          refine ⟨_, mem_of_mem_afterLiteral hmem, hfits.literal, ?_⟩
          rintro ⟨other, b⟩ hother hfits' hc
          -- Only a literal can go before a literal, and it is the same one.
          cases hfits' with
          | literal hfits' =>
              cases hc with
              | literal hc => exact hfirst _ (mem_afterLiteral_of_mem hother) hfits' hc
          | param _ _ => cases hc
      | none =>
          rw [hliteral, Option.none_or] at h
          by_cases htext : text = []
          · rw [if_pos htext] at h
            cases h
          · rw [if_neg htext] at h
            obtain ⟨rest, hmem, hfits, hfirst⟩ := ih h
            obtain ⟨name, hmem⟩ := mem_of_mem_afterParam hmem
            refine ⟨_, hmem, hfits.param htext, ?_⟩
            rintro ⟨other, b⟩ hother hfits' hc
            cases hfits' with
            | literal hfits' =>
                exact select_eq_none_iff.mp hliteral
                  ⟨_, mem_afterLiteral_of_mem hother, hfits'⟩
            | param _ hfits' =>
                cases hc with
                | param hc => exact hfirst _ (mem_afterParam_of_mem hother) hfits' hc

end Dispatch

namespace Route

open Dispatch

/-! ## The patterns of the table -/

/-- A path leads to a route: the pattern of the route fits, and it goes before
every other pattern of the table that fits. -/
structure Leads (path : Text) (route : Route) : Prop where
  listed : route ∈ table
  fits : Fits route.pattern (segmentsOf path)
  preferred : ∀ other ∈ table, other.inbound ≠ route.inbound →
    Fits other.pattern (segmentsOf path) → Preferred route.pattern other.pattern

theorem mem_patterns {r : Route} (hr : r ∈ table) : r.inbound ∈ patterns table :=
  List.mem_eraseDups.mpr (List.mem_map_of_mem hr)

/-- What the table is like. It is gone through once. -/
theorem table_facts :
    ((patterns table).map fun inbound =>
      shape ((segmentsOf inbound).map Segment.read)).Nodup ∧
    (table.map fun r => (r.verb.method, r.inbound)).Nodup ∧
    (∀ r ∈ table, r.pattern.head? = some (.literal "jobs".toList)) ∧
    (∀ r ∈ table, ((sharing table r.inbound).flatMap fun s => methodsOf s.verb).Nodup) := by
  decide +kernel

/-- Patterns that are alike are the same pattern. -/
theorem inbound_eq_of_shape {r s : Route} (hr : r ∈ table) (hs : s ∈ table)
    (h : shape r.pattern = shape s.pattern) : r.inbound = s.inbound :=
  List.inj_on_of_nodup_map table_facts.1 (mem_patterns hr) (mem_patterns hs) h

/-- No two routes share both pattern and verb. -/
theorem eq_of_inbound_of_method {r s : Route} (hr : r ∈ table) (hs : s ∈ table)
    (hinbound : r.inbound = s.inbound) (hverb : r.verb.method = s.verb.method) : r = s :=
  List.inj_on_of_nodup_map table_facts.2.1 hr hs (Prod.ext hverb hinbound)

/-- All patterns begin with the same word. -/
theorem head?_of_fits {r : Route} (hr : r ∈ table) {path : List Text} (h : Fits r.pattern path) :
    path.head? = some "jobs".toList := by
  have hhead := table_facts.2.2.1 r hr
  generalize r.pattern = pattern at h hhead
  cases h with
  | done => cases hhead
  | literal _ =>
      cases hhead
      rfl
  | param _ _ => cases hhead

/-- A path leads to one pattern only. -/
theorem Leads.inbound_eq {path : Text} {r s : Route} (hr : Leads path r) (hs : Leads path s) :
    r.inbound = s.inbound := by
  refine Decidable.byContradiction fun hne => ?_
  have hrs := hr.preferred s hs.listed (Ne.symm hne) hs.fits
  exact hrs.asymm (hs.preferred r hr.listed hne hr.fits)

/-- The segments of the health check's path. -/
theorem pattern_health :
    (segmentsOf healthPath).map Segment.read = [.literal "healthz".toList] := by
  decide +kernel

theorem mem_endpoints_of_route {r : Route} (hr : r ∈ table) :
    (r.pattern, Endpoint.routes (sharing table r.inbound)) ∈ endpoints :=
  List.mem_append_left _ (List.mem_map.mpr ⟨r.inbound, mem_patterns hr, rfl⟩)

theorem mem_endpoints {pattern : List Segment} {e : Endpoint} (h : (pattern, e) ∈ endpoints) :
    (∃ r ∈ table, pattern = r.pattern ∧ e = .routes (sharing table r.inbound)) ∨
      (pattern = [.literal "healthz".toList] ∧ e = .health) := by
  rcases List.mem_append.mp h with h | h
  · obtain ⟨inbound, hinbound, heq⟩ := List.mem_map.mp h
    obtain ⟨r, hr, rfl⟩ := List.mem_map.mp (List.mem_eraseDups.mp hinbound)
    obtain ⟨rfl, rfl⟩ := Prod.mk.inj heq
    exact Or.inl ⟨r, hr, rfl, rfl⟩
  · obtain ⟨rfl, rfl⟩ := Prod.mk.inj (List.mem_singleton.mp h)
    exact Or.inr ⟨pattern_health, rfl⟩

theorem fits_health_iff {path : List Text} :
    Fits [.literal "healthz".toList] path ↔ path = ["healthz".toList] := by
  constructor
  · intro h
    cases h with
    | literal h =>
        cases h
        rfl
  · rintro rfl
    exact .literal .done

/-- Where nothing that fits goes before a route's pattern, that pattern goes
before all others that fit. -/
theorem leads_of_select {path : Text} {r : Route} (hr : r ∈ table)
    (hfits : Fits r.pattern (segmentsOf path))
    (hfirst : ∀ c ∈ endpoints, Fits c.1 (segmentsOf path) → ¬ Preferred c.1 r.pattern) :
    Leads path r where
  listed := hr
  fits := hfits
  preferred := by
    intro other hother hne hother'
    rcases hfits.preferred_or_shape hother' with h | h | h
    · exact h
    · exact absurd h (hfirst _ (mem_endpoints_of_route hother) hother')
    · exact absurd (inbound_eq_of_shape hother hr h.symm) hne

/-- **A path that a pattern fits leads to a route,** and the search ends at the
routes with its pattern. -/
theorem exists_leads {path : Text}
    (h : ∃ r ∈ table, Fits r.pattern (segmentsOf path)) :
    ∃ r, Leads path r ∧
      select endpoints (segmentsOf path) = some (.routes (sharing table r.inbound)) := by
  obtain ⟨r, hr, hfits⟩ := h
  cases hselect : select endpoints (segmentsOf path) with
  | none => exact absurd ⟨_, mem_endpoints_of_route hr, hfits⟩ (select_eq_none_iff.mp hselect)
  | some e =>
      obtain ⟨pattern, hmem, hpattern, hfirst⟩ := preferred_of_select hselect
      rcases mem_endpoints hmem with ⟨s, hs, rfl, rfl⟩ | ⟨rfl, rfl⟩
      · exact ⟨s, leads_of_select hs hpattern hfirst, rfl⟩
      · -- The health check has a word of its own.
        have hjobs := head?_of_fits hr hfits
        rw [fits_health_iff.mp hpattern] at hjobs
        exact absurd hjobs (by decide)

theorem select_of_leads {path : Text} {r : Route} (h : Leads path r) :
    select endpoints (segmentsOf path) = some (.routes (sharing table r.inbound)) := by
  obtain ⟨s, hs, hselect⟩ := exists_leads ⟨r, h.listed, h.fits⟩
  rw [hselect, hs.inbound_eq h]

/-- Where no pattern of the table fits, only the health check is left. -/
theorem select_of_no_fit {path : Text} (h : ∀ r ∈ table, ¬ Fits r.pattern (segmentsOf path)) :
    select endpoints (segmentsOf path) =
      if segmentsOf path = ["healthz".toList] then some .health else none := by
  cases hselect : select endpoints (segmentsOf path) with
  | none =>
      refine (if_neg fun heq => ?_).symm
      refine select_eq_none_iff.mp hselect ⟨_, List.mem_append_right _ List.mem_cons_self, ?_⟩
      rw [pattern_health]
      exact fits_health_iff.mpr heq
  | some e =>
      obtain ⟨pattern, hmem, hpattern, -⟩ := preferred_of_select hselect
      rcases mem_endpoints hmem with ⟨r, hr, rfl, rfl⟩ | ⟨rfl, rfl⟩
      · exact absurd hpattern (h r hr)
      · rw [if_pos (fits_health_iff.mp hpattern)]

end Route

end JobsGateway
