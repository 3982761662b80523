import JobsGateway.Route.Dispatch

/-!
# Requests are dispatched to entries of the table

Whatever the path, the endpoint that is found is one of the endpoints of the
table, and a route that a request is dispatched to is an entry of the table
whose verb serves the method of the request.
-/

namespace JobsGateway.Dispatch

theorem mem_of_mem_afterLiteral {α : Type} {text : Text}
    {candidates : List (List Segment × α)} {rest : List Segment} {a : α}
    (h : (rest, a) ∈ afterLiteral text candidates) :
    (.literal text :: rest, a) ∈ candidates := by
  obtain ⟨⟨pattern, b⟩, hmem, hc⟩ := List.mem_filterMap.mp h
  match pattern with
  | [] => cases hc
  | .param _ :: _ => cases hc
  | .literal t :: more =>
      simp only [Option.ite_none_right_eq_some, Option.some.injEq, Prod.mk.injEq] at hc
      obtain ⟨rfl, rfl, rfl⟩ := hc
      exact hmem

theorem mem_of_mem_afterParam {α : Type} {candidates : List (List Segment × α)}
    {rest : List Segment} {a : α} (h : (rest, a) ∈ afterParam candidates) :
    ∃ name, (.param name :: rest, a) ∈ candidates := by
  obtain ⟨⟨pattern, b⟩, hmem, hc⟩ := List.mem_filterMap.mp h
  match pattern with
  | [] => cases hc
  | .literal _ :: _ => cases hc
  | .param name :: more =>
      cases hc
      exact ⟨name, hmem⟩

/-- The search only ever answers with what stands behind a candidate. -/
theorem mem_of_select {α : Type} (path : List Text) :
    ∀ {candidates : List (List Segment × α)} {a : α},
      select candidates path = some a → ∃ pattern, (pattern, a) ∈ candidates := by
  induction path with
  | nil =>
      intro candidates a h
      obtain ⟨⟨pattern, b⟩, hfind, rfl⟩ := Option.map_eq_some_iff.mp h
      exact ⟨pattern, List.mem_of_find?_eq_some hfind⟩
  | cons text path ih =>
      intro candidates a h
      rw [select] at h
      cases hlit : select (afterLiteral text candidates) path with
      | some b =>
          rw [hlit] at h
          cases h
          obtain ⟨rest, hrest⟩ := ih hlit
          exact ⟨_, mem_of_mem_afterLiteral hrest⟩
      | none =>
          rw [hlit] at h
          by_cases hempty : text = []
          · simp [hempty] at h
          · simp only [hempty, if_false] at h
            obtain ⟨rest, hrest⟩ := ih h
            obtain ⟨name, hmem⟩ := mem_of_mem_afterParam hrest
            exact ⟨_, hmem⟩

theorem subset_table_of_endpoint? {rest : Text} {routes : List Route}
    (h : endpoint? rest = some (.routes routes)) : routes ⊆ Route.table := by
  obtain ⟨pattern, hmem⟩ := mem_of_select _ h
  rcases List.mem_append.mp hmem with hmem | hmem
  · obtain ⟨inbound, _, heq⟩ := List.mem_map.mp hmem
    cases heq
    exact fun r hr => (List.mem_filter.mp hr).1
  · cases List.mem_singleton.mp hmem

/-- A request is dispatched only to an entry of the table, and only with a
method that the entry's verb serves. -/
theorem find_eq_route {method path : Text} {route : Route}
    (h : find method path = .route route) :
    route ∈ Route.table ∧ route.verb.method = servedAs method := by
  match path with
  | [] => cases h
  | c :: rest =>
      by_cases hc : c = '/'
      · subst hc
        simp only [find] at h
        cases he : endpoint? rest with
        | none => simp [he] at h
        | some endpoint =>
            simp only [he, Option.map_some, Option.getD_some] at h
            cases endpoint with
            | health =>
                simp only [atEndpoint] at h
                split at h <;> cases h
            | routes routes =>
                simp only [atEndpoint] at h
                split at h
                · rename_i r hfind
                  cases h
                  refine ⟨subset_table_of_endpoint? he (List.mem_of_find?_eq_some hfind), ?_⟩
                  simpa using List.find?_some hfind
                · cases h
      · rw [find] at h
        · cases h
        · intro rest' heq
          cases heq
          exact hc rfl

end JobsGateway.Dispatch
