import JobsGateway.Proofs.Gateway.Exchange
import JobsGateway.Proofs.Route.Binding

/-!
# The answer follows the patterns

A request to a path without empty segments is handled by the route whose pattern
the path leads to and whose verb serves its method. If the pattern has no such
route, the methods that it has are the answer; if no pattern fits, there is no
such path, unless it is the one of the health check, which stands beside the
table. What a route then captures of the path is what its pattern binds.
-/

namespace JobsGateway

open Route (Leads bindings segmentsOf table)

/-- A path has no empty segment where its literals are words. -/
theorem Fits.nil_notMem {pattern : List Segment} {path : List Text} (h : Fits pattern path)
    (hliteral : .literal [] ∉ pattern) : [] ∉ path := by
  induction h with
  | done => simp
  | literal _ ih =>
      rw [List.mem_cons, not_or] at hliteral ⊢
      exact ⟨fun hnil => hliteral.1 (congrArg Segment.literal hnil), ih hliteral.2⟩
  | param hne _ ih =>
      rw [List.mem_cons, not_or] at hliteral ⊢
      exact ⟨hne.symm, ih hliteral.2⟩

namespace Route

/-- No pattern of the table fits a path. -/
def NoneFits (path : Text) : Prop :=
  ∀ r ∈ table, ¬ Fits r.pattern (segmentsOf path)

instance (path : Text) : Decidable (NoneFits path) :=
  inferInstanceAs (Decidable (∀ r ∈ table, ¬ Fits r.pattern (segmentsOf path)))

/-- A method is served where the pattern of a route is: a route with that pattern
has it as its verb, or it is HEAD and there is one for GET. -/
def Serves (route : Route) (method : Text) : Prop :=
  ∃ other ∈ table, other.inbound = route.inbound ∧
    (method = other.verb.method ∨ method = Method.head ∧ other.verb = .get)

/-- The slash in front is the only one that is dropped where no segment is
empty. -/
theorem segmentsOf_of_whole {rest : Text} (h : [] ∉ Text.split '/' rest) :
    segmentsOf ('/' :: rest) = Text.split '/' rest := by
  show Text.split '/' (('/' :: rest).dropWhile (· == '/')) = _
  rw [List.dropWhile_cons_of_pos (by rfl)]
  cases rest with
  | nil => rfl
  | cons c rest =>
      have hc : c ≠ '/' := by
        rintro rfl
        exact h (by simp [Text.split])
      rw [List.dropWhile_cons_of_neg (by simpa using hc)]

theorem literal_nil_notMem {r : Route} (hr : r ∈ table) : .literal [] ∉ r.pattern := by
  have hall : ∀ r ∈ table, .literal [] ∉ r.pattern := by decide +kernel
  exact hall r hr

end Route

namespace Dispatch

/-! ## Where a request is handled -/

theorem mem_methodsOf {method : Text} {verb : Verb} :
    method ∈ methodsOf verb ↔
      method = verb.method ∨ method = Method.head ∧ verb = .get := by
  cases verb <;> simp [methodsOf, Verb.method]

/-- The methods that are allowed where the pattern of a route is. -/
theorem mem_allowed {r : Route} {method : Text} :
    (method ∈ (sharing table r.inbound).flatMap fun s => methodsOf s.verb) ↔
      r.Serves method := by
  simp only [List.mem_flatMap, sharing, List.mem_filter, decide_eq_true_eq, mem_methodsOf]
  constructor
  · rintro ⟨s, ⟨hs, hinbound⟩, h⟩
    exact ⟨s, hs, hinbound, h⟩
  · rintro ⟨s, hs, hinbound, h⟩
    exact ⟨s, ⟨hs, hinbound⟩, h⟩

section Whole

variable {rest : Text} {r : Route}

theorem find_of_whole (method : Text) (h : [] ∉ Text.split '/' rest) :
    find method ('/' :: rest) =
      ((select endpoints (segmentsOf ('/' :: rest))).map (atEndpoint method)).getD
        .unknownPath := by
  rw [find, endpoint?, Route.segmentsOf_of_whole h]

theorem find_of_leads {method : Text} (h : [] ∉ Text.split '/' rest)
    (hleads : Leads ('/' :: rest) r) (hverb : r.verb.method = servedAs method) :
    find method ('/' :: rest) = .route r := by
  rw [find_of_whole method h, Route.select_of_leads hleads]
  show atEndpoint method (.routes (sharing table r.inbound)) = .route r
  have hr : r ∈ sharing table r.inbound :=
    List.mem_filter.mpr ⟨hleads.listed, decide_eq_true rfl⟩
  rw [atEndpoint]
  cases hfind : (sharing table r.inbound).find? fun s => s.verb.method = servedAs method with
  | none => exact absurd (decide_eq_true hverb) (List.find?_eq_none.mp hfind r hr)
  | some s =>
      obtain ⟨hs, hinbound⟩ := List.mem_filter.mp (List.mem_of_find?_eq_some hfind)
      have hmethod : s.verb.method = servedAs method := by simpa using List.find?_some hfind
      rw [Route.eq_of_inbound_of_method hs hleads.listed (of_decide_eq_true hinbound)
        (hmethod.trans hverb.symm)]

theorem find_of_leads_of_other {method : Text} (h : [] ∉ Text.split '/' rest)
    (hleads : Leads ('/' :: rest) r)
    (hverb : ∀ s ∈ table, s.inbound = r.inbound → s.verb.method ≠ servedAs method) :
    find method ('/' :: rest) =
      .wrongMethod ((sharing table r.inbound).flatMap fun s => methodsOf s.verb) := by
  rw [find_of_whole method h, Route.select_of_leads hleads]
  show atEndpoint method (.routes (sharing table r.inbound)) = _
  have hnone : ((sharing table r.inbound).find? fun s => s.verb.method = servedAs method) =
      none := by
    refine List.find?_eq_none.mpr fun s hs => ?_
    obtain ⟨hs, hinbound⟩ := List.mem_filter.mp hs
    simpa using hverb s hs (of_decide_eq_true hinbound)
  rw [atEndpoint, hnone]

theorem find_of_noneFits (method : Text) (h : [] ∉ Text.split '/' rest)
    (hnone : Route.NoneFits ('/' :: rest)) :
    find method ('/' :: rest) =
      if '/' :: rest = healthPath then atEndpoint method .health else .unknownPath := by
  have hhealth : segmentsOf ('/' :: rest) = ["healthz".toList] ↔ '/' :: rest = healthPath := by
    rw [Route.segmentsOf_of_whole h]
    constructor
    · intro heq
      have hjoin := Text.join_split '/' rest
      rw [heq] at hjoin
      rw [← hjoin]
      rfl
    · intro heq
      rw [(List.cons.inj heq).2]
      rfl
  rw [find_of_whole method h, Route.select_of_no_fit hnone]
  by_cases heq : '/' :: rest = healthPath
  · rw [if_pos heq, if_pos (hhealth.mpr heq)]
    rfl
  · rw [if_neg heq, if_neg fun hs => heq (hhealth.mp hs)]
    rfl

end Whole

/-- The routes that share a pattern answer for it. -/
theorem mem_of_atEndpoint {method : Text} {e : Endpoint} {r : Route}
    (h : atEndpoint method e = .route r) : ∃ routes, e = .routes routes ∧ r ∈ routes := by
  cases e with
  | health =>
      rw [atEndpoint] at h
      split at h <;> cases h
  | routes routes =>
      rw [atEndpoint] at h
      split at h
      · rename_i s hfind
        cases h
        exact ⟨routes, rfl, List.mem_of_find?_eq_some hfind⟩
      · cases h

/-- The pattern of the route that a request is dispatched to fits its path. -/
theorem fits_of_find {method path : Text} {r : Route} (h : find method path = .route r) :
    Fits r.pattern (segmentsOf path) := by
  unfold find at h
  split at h
  · rename_i rest
    cases hselect : endpoint? rest with
    | none =>
        rw [hselect] at h
        cases h
    | some e =>
        rw [hselect] at h
        obtain ⟨routes, rfl, hr⟩ := mem_of_atEndpoint h
        obtain ⟨pattern, hmem, hfits, -⟩ := preferred_of_select hselect
        rcases Route.mem_endpoints hmem with ⟨s, hs, rfl, heq⟩ | ⟨-, heq⟩
        · cases heq
          obtain ⟨-, hinbound⟩ := List.mem_filter.mp hr
          have hwhole := hfits.nil_notMem (Route.literal_nil_notMem hs)
          rwa [Route.segmentsOf_of_whole hwhole, Route.pattern, of_decide_eq_true hinbound]
        · cases heq
  · cases h

end Dispatch

namespace Gateway

open Dispatch

/-! ## The answer -/

theorem handle_of_health {g : Gateway} {request : Request}
    (h : find request.method request.target.pathText = .health) :
    g.handle request = ⟨finish request.method healthy, []⟩ := by
  rw [handle, h]

/-- **A request follows the patterns.** Its path begins with a slash and has no
empty segment. If a pattern of the table fits, the path leads to one pattern. The
route with that pattern whose verb serves the method handles the request, and
captures what the pattern binds exactly if no value is a dot segment or holds a
backslash. If there is no such route, the answer names the methods that the
pattern has. If no pattern fits, nothing is found there but the health check.
Without a route nothing happens outside the gateway. -/
theorem handle_follows_patterns (g : Gateway) (request : Request) {rest : Text}
    (hpath : request.target.pathText = '/' :: rest) (hwhole : [] ∉ Text.split '/' rest) :
    (¬ Route.NoneFits request.target.pathText → ∃ r, Leads request.target.pathText r) ∧
    (∀ r s, Leads request.target.pathText r → Leads request.target.pathText s →
      r.inbound = s.inbound) ∧
    (∀ r, Leads request.target.pathText r → r.verb.method = servedAs request.method →
      g.handle request =
        ⟨finish request.method (g.serve r request).result, (g.serve r request).journal⟩ ∧
      ∀ captured, r.capture request.target.pathText = some captured ↔
        captured = bindings r.pattern (segmentsOf request.target.pathText) ∧
          ∀ b ∈ bindings r.pattern (segmentsOf request.target.pathText), ¬ Misleads b.2) ∧
    (∀ r, Leads request.target.pathText r →
      (∀ s ∈ table, s.inbound = r.inbound → s.verb.method ≠ servedAs request.method) →
      (g.handle request).journal = [] ∧
      (g.handle request).result.status = .methodNotAllowed ∧
      ∃ allowed : List Text, allowed.Nodup ∧ (∀ method, method ∈ allowed ↔ r.Serves method) ∧
        (g.handle request).result.fields.values FieldName.allow =
          [Utf8.encode (Text.join ',' allowed)]) ∧
    (Route.NoneFits request.target.pathText →
      (g.handle request).journal = [] ∧
      (g.handle request).result.status =
        if request.target.pathText ≠ healthPath then .notFound
        else if servedAs request.method = Method.get then .ok
        else .methodNotAllowed) := by
  rw [hpath]
  refine ⟨?_, fun r s hr hs => hr.inbound_eq hs, ?_, ?_, ?_⟩
  · intro hfits
    unfold Route.NoneFits at hfits
    push Not at hfits
    obtain ⟨r, hr, -⟩ := Route.exists_leads hfits
    exact ⟨r, hr⟩
  · intro r hr hverb
    constructor
    · rw [handle, hpath, find_of_leads hwhole hr hverb]
    · intro captured
      refine Route.captureSegments_eq_some_iff.trans ?_
      exact and_iff_right hr.fits
  · intro r hr hverb
    have hhandle : g.handle request = ⟨finish request.method (refuseMethod
        ((sharing table r.inbound).flatMap fun s => methodsOf s.verb)), []⟩ := by
      rw [handle, hpath, find_of_leads_of_other hwhole hr hverb]
    rw [hhandle]
    refine ⟨rfl, status_finish .., _, Route.table_facts.2.2.2 r hr.listed,
      fun method => mem_allowed, ?_⟩
    exact values_finish_of_ne (by decide) ..
  · intro hnone
    have hfind := find_of_noneFits request.method hwhole hnone
    by_cases heq : '/' :: rest = healthPath
    · rw [if_pos heq, atEndpoint] at hfind
      rw [if_neg (not_not_intro heq)]
      by_cases hget : servedAs request.method = Method.get
      · rw [if_pos hget, ← hpath] at hfind
        rw [if_pos hget, handle_of_health hfind]
        exact ⟨rfl, status_finish ..⟩
      · rw [if_neg hget] at hfind
        rw [if_neg hget, handle, hpath, hfind]
        exact ⟨rfl, status_finish ..⟩
    · rw [if_neg heq] at hfind
      rw [if_pos heq, handle, hpath, hfind]
      exact ⟨rfl, rfl⟩

/-- The search comes back from the word governance: the path leads to the status
of a job of that name, which can be asked for and not deleted. -/
theorem job_may_be_called_governance :
    let path := "/jobs/governance/status".toList
    let request (method : Text) : Request := ⟨method, .path path none, [], ⟨[], none⟩⟩
    let g : Gateway := ⟨⟨"http://127.0.0.1:55551".toList, ⟨30000⟩⟩, 16,
      .fixed (.error .noCredentials), fun _ => .silent⟩
    let route := Route.same "get_job_status" .get "jobs/\x7bjob_id\x7d/status"
    Leads path route ∧
      g.handle (request Method.head) = ⟨finish Method.head
        (g.serve route (request Method.head)).result,
          (g.serve route (request Method.head)).journal⟩ ∧
      route.capture path = some [("job_id".toList, "governance".toList)] ∧
      (g.handle (request Method.delete)).journal = [] ∧
      (g.handle (request Method.delete)).result.status = .methodNotAllowed := by
  intro path request g route
  have hleads : Leads path route :=
    ⟨by decide +kernel, by decide +kernel, by decide +kernel⟩
  have hwhole : [] ∉ Text.split '/' "jobs/governance/status".toList := by decide +kernel
  obtain ⟨-, -, hserved, -, -⟩ := handle_follows_patterns g (request Method.head) rfl hwhole
  obtain ⟨-, -, -, hother, -⟩ := handle_follows_patterns g (request Method.delete) rfl hwhole
  obtain ⟨hhandle, hcapture⟩ := hserved route hleads rfl
  obtain ⟨hjournal, hstatus, -⟩ := hother route hleads (by decide +kernel)
  exact ⟨hleads, hhandle, (hcapture _).mpr (by decide +kernel), hjournal, hstatus⟩

/-- The health check is found although no pattern of the table fits its path. -/
theorem health_check_fits_no_pattern :
    ¬ ∀ (g : Gateway) (request : Request) (rest : Text),
      request.target.pathText = '/' :: rest → [] ∉ Text.split '/' rest →
      Route.NoneFits request.target.pathText →
      (g.handle request).result.status = .notFound := by
  intro h
  have hwhole : [] ∉ Text.split '/' "healthz".toList := by decide
  have hnone : Route.NoneFits ('/' :: "healthz".toList) := by decide +kernel
  have hfind : find Method.get ('/' :: "healthz".toList) = .health := by
    rw [find_of_noneFits Method.get hwhole hnone, if_pos (by rfl)]
    rfl
  have hstatus := h
    ⟨⟨"http://127.0.0.1:55551".toList, ⟨30000⟩⟩, 16, .fixed (.error .noCredentials),
      fun _ => .silent⟩
    ⟨Method.get, .path ('/' :: "healthz".toList) none, [], ⟨[], none⟩⟩ _ rfl hwhole hnone
  rw [handle_of_health hfind, status_finish] at hstatus
  cases hstatus

end Gateway

end JobsGateway
