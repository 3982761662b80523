import JobsGateway.Proofs.Gateway.Exchange

/-!
# HEAD is GET without the body

The method of a request is looked at twice: when its route is found, and when
the answer goes out. A HEAD request is found the route of a GET, and in between
only the verb of that route counts. So the two are handled alike up to the last
step, and there the body is left out after its length was told.
-/

namespace JobsGateway

/-- The same request under another method. -/
def Request.under (request : Request) (method : Text) : Request :=
  { request with method := method }

namespace Dispatch

/-- Where a request is handled depends on the method that serves it. -/
theorem find_congr {method other : Text} (h : servedAs method = servedAs other)
    (path : Text) : find method path = find other path := by
  have hend : atEndpoint method = atEndpoint other := by
    funext endpoint
    cases endpoint with
    | health => rw [atEndpoint, atEndpoint, h]
    | routes routes => rw [atEndpoint, atEndpoint, h]
  unfold find
  rw [hend]

/-- A HEAD request is handled where a GET request is. -/
theorem find_head (path : Text) : find Method.head path = find Method.get path :=
  find_congr (by decide) path

end Dispatch

namespace Gateway

/-! ## What does not look at the method -/

theorem receive_under (g : Gateway) (route : Route) (caller : Caller) (request : Request)
    (method : Text) :
    g.receive route caller (request.under method) = g.receive route caller request := rfl

/-- A route serves a request by its own verb, whatever the method. -/
theorem serve_under (g : Gateway) (route : Route) (request : Request) (method : Text) :
    g.serve route (request.under method) = g.serve route request := by
  unfold serve
  simp only [receive_under]
  rfl

/-! ## What the answer to HEAD leaves out -/

/-- The answer to HEAD differs from any other in the body alone. -/
theorem finish_head (method : Text) (r : Response) :
    finish Method.head r = { finish method r with body := [] } := by
  unfold finish
  rw [if_pos rfl]
  by_cases hmethod : method = Method.head
  · rw [if_pos hmethod]
  · rw [if_neg hmethod]

/-- An answer that goes out finished tells a length. -/
theorem values_finish_contentLength_ne_nil (method : Text) (r : Response) :
    (finish method r).fields.values FieldName.contentLength ≠ [] := by
  rw [values_finish_contentLength]
  by_cases hnone : r.fields.values FieldName.contentLength = []
  · rw [if_pos hnone]
    exact List.cons_ne_nil _ _
  · rw [if_neg hnone]
    exact hnone

/-- The two requests are handled alike, but for the body of the answer. -/
theorem handle_under_head (g : Gateway) (request : Request) :
    (g.handle (request.under Method.head)).journal =
        (g.handle (request.under Method.get)).journal ∧
      (g.handle (request.under Method.head)).result =
        { (g.handle (request.under Method.get)).result with body := [] } := by
  have hhead : Dispatch.find (request.under Method.head).method
      (request.under Method.head).target.pathText =
        Dispatch.find (request.under Method.get).method
          (request.under Method.get).target.pathText := Dispatch.find_head _
  unfold handle
  rw [hhead]
  cases Dispatch.find (request.under Method.get).method
      (request.under Method.get).target.pathText with
  | unknownPath => exact ⟨rfl, rfl⟩
  | noPath => exact ⟨rfl, finish_head ..⟩
  | health => exact ⟨rfl, finish_head ..⟩
  | wrongMethod allowed => exact ⟨rfl, finish_head ..⟩
  | route route =>
      have hsame : g.serve route (request.under Method.head) =
          g.serve route (request.under Method.get) := by
        rw [serve_under, serve_under]
      have hjournal := congrArg Run.journal hsame
      refine ⟨hjournal, ?_⟩
      show finish Method.head (g.serve route (request.under Method.head)).result =
        { finish Method.get (g.serve route (request.under Method.get)).result with body := [] }
      rw [hsame]
      exact finish_head ..

/-- Every answer but the one to an unknown path tells a length. -/
theorem values_handle_contentLength_ne_nil (g : Gateway) (request : Request)
    (h : Dispatch.find request.method request.target.pathText ≠ .unknownPath) :
    (g.handle request).result.fields.values FieldName.contentLength ≠ [] := by
  unfold handle
  cases hfind : Dispatch.find request.method request.target.pathText with
  | unknownPath => exact absurd hfind h
  | noPath => exact values_finish_contentLength_ne_nil _ _
  | health => exact values_finish_contentLength_ne_nil _ _
  | wrongMethod allowed => exact values_finish_contentLength_ne_nil _ _
  | route route => exact values_finish_contentLength_ne_nil _ _

/-- What the backend reads has the method that serves the request. -/
theorem method_of_mem_backendRequests {g : Gateway} {request : Request} {d : Delivery}
    (h : d ∈ (g.handle request).journal.backendRequests) :
    d.method = Dispatch.servedAs request.method := by
  obtain ⟨out, hout, -, rfl⟩ := mem_backendRequests_handle.mp h
  obtain ⟨route, caller, path, inbound, hadmits⟩ := (outgoing?_eq_some_iff ..).mp hout
  show out.method = _
  rw [Backend.method_of_build hadmits.built]
  exact (Dispatch.find_eq_route hadmits.dispatched).2

/-- **HEAD is GET without the body.** A request is handled under HEAD as under
GET: the same happens, in the same order, so the verifier is asked as often and
the identity endpoint and the backend read the same requests. The backend reads
GET. The answer has the same status and the same fields, and no body. A length
is among the fields of every answer but the one to an unknown path. -/
theorem handle_head_is_bodiless_get (g : Gateway) (request : Request) :
    (g.handle (request.under Method.head)).journal =
      (g.handle (request.under Method.get)).journal ∧
    (g.handle (request.under Method.head)).journal.verifications =
      (g.handle (request.under Method.get)).journal.verifications ∧
    (g.handle (request.under Method.head)).journal.backendRequests =
      (g.handle (request.under Method.get)).journal.backendRequests ∧
    (∀ d ∈ (g.handle (request.under Method.head)).journal.backendRequests,
      d.method = Method.get) ∧
    (g.handle (request.under Method.head)).result.status =
      (g.handle (request.under Method.get)).result.status ∧
    (g.handle (request.under Method.head)).result.fields =
      (g.handle (request.under Method.get)).result.fields ∧
    (g.handle (request.under Method.head)).result.body = [] ∧
    (Dispatch.find Method.head request.target.pathText ≠ .unknownPath →
      (g.handle (request.under Method.head)).result.fields.values FieldName.contentLength ≠
        []) := by
  obtain ⟨hjournal, hresult⟩ := handle_under_head g request
  refine ⟨hjournal, by rw [hjournal], by rw [hjournal], ?_, by rw [hresult], by rw [hresult],
    by rw [hresult], values_handle_contentLength_ne_nil g (request.under Method.head)⟩
  intro d hd
  exact method_of_mem_backendRequests hd

end Gateway

end JobsGateway
