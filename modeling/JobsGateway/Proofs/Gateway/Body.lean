import JobsGateway.Proofs.Gateway.Exchange

/-!
# A body counts by its octets

A body is collected chunk by chunk, and the limit is looked at after each of
them. What comes of it depends on the octets alone: a body that is longer than
the limit at some point is too large, whatever happens later; any other one that
breaks off is broken; and what is left is taken up whole. Methods that carry no
body never look at it.
-/

namespace JobsGateway

/-- Some chunks at the front are together longer than a limit. -/
def Overflows (limit : Nat) (chunks : List Bytes) : Prop :=
  ∃ front, front <+: chunks ∧ limit < front.flatten.length

variable {limit : Nat} {chunks : List Bytes}

/-- The longest front of all is the whole row. -/
theorem overflows_iff : Overflows limit chunks ↔ limit < chunks.flatten.length := by
  constructor
  · rintro ⟨front, ⟨back, rfl⟩, hlong⟩
    rw [List.flatten_append, List.length_append]
    omega
  · intro hlong
    exact ⟨chunks, List.prefix_refl chunks, hlong⟩

/-! ## Collecting -/

theorem collectChunks_of_overflow (fault : Option Text) (h : limit < chunks.flatten.length) :
    collectChunks limit fault chunks = .error .tooLarge := by
  induction chunks generalizing limit with
  | nil => simp at h
  | cons chunk rest ih =>
      rw [List.flatten_cons, List.length_append] at h
      rw [collectChunks]
      by_cases hchunk : limit < chunk.length
      · rw [if_pos hchunk]
      · rw [if_neg hchunk, ih (by omega)]
        rfl

/-- A body that fits is taken up whole, unless it breaks off. -/
theorem collectChunks_of_fit (fault : Option Text) (h : chunks.flatten.length ≤ limit) :
    collectChunks limit fault chunks =
      match fault with
      | none => .ok chunks.flatten
      | some cause => .error (.broken cause) := by
  induction chunks generalizing limit with
  | nil => cases fault <;> rfl
  | cons chunk rest ih =>
      rw [List.flatten_cons, List.length_append] at h
      rw [collectChunks, if_neg (by omega), ih (by omega)]
      cases fault <;> rfl

/-! ## Taking up a request -/

theorem carriesBody_iff {method : Text} :
    Method.carriesBody method = true ↔
      method = Method.post ∨ method = Method.put ∨ method = Method.patch := by
  simp [Method.carriesBody, or_assoc]

section Read

variable {request : Request} {method : Text}

theorem read_of_no_body (h : Method.carriesBody method = false) :
    Inbound.read limit request method = .ok ⟨request.fields, request.target.query, []⟩ := by
  rw [Inbound.read, if_neg (by simp [h])]

theorem read_of_overflow (h : Method.carriesBody method = true)
    (hlong : Overflows limit request.body.chunks) :
    Inbound.read limit request method = .error .tooLarge := by
  rw [Inbound.read, if_pos h, BodyStream.collect,
    collectChunks_of_overflow _ (overflows_iff.mp hlong)]
  rfl

theorem read_of_fault (h : Method.carriesBody method = true)
    (hfits : ¬ Overflows limit request.body.chunks) {cause : Text}
    (hfault : request.body.fault = some cause) :
    Inbound.read limit request method = .error (.broken cause) := by
  rw [overflows_iff, Nat.not_lt] at hfits
  rw [Inbound.read, if_pos h, BodyStream.collect, collectChunks_of_fit _ hfits, hfault]
  rfl

theorem read_of_whole (h : Method.carriesBody method = true)
    (hfits : ¬ Overflows limit request.body.chunks) (hfault : request.body.fault = none) :
    Inbound.read limit request method =
      .ok ⟨request.fields, request.target.query, request.body.chunks.flatten⟩ := by
  rw [overflows_iff, Nat.not_lt] at hfits
  rw [Inbound.read, if_pos h, BodyStream.collect, collectChunks_of_fit _ hfits, hfault]
  rfl

/-- How taking up a request with a body ends. -/
theorem read_cases (limit : Nat) (request : Request)
    (h : Method.carriesBody method = true) :
    (Overflows limit request.body.chunks ∧
      Inbound.read limit request method = .error .tooLarge) ∨
    (¬ Overflows limit request.body.chunks ∧ ∃ cause, request.body.fault = some cause ∧
      Inbound.read limit request method = .error (.broken cause)) ∨
    (¬ Overflows limit request.body.chunks ∧ request.body.fault = none ∧
      Inbound.read limit request method =
        .ok ⟨request.fields, request.target.query, request.body.chunks.flatten⟩) := by
  by_cases hlong : Overflows limit request.body.chunks
  · exact Or.inl ⟨hlong, read_of_overflow h hlong⟩
  · cases hfault : request.body.fault with
    | some cause => exact Or.inr (Or.inl ⟨hlong, cause, rfl, read_of_fault h hlong hfault⟩)
    | none => exact Or.inr (Or.inr ⟨hlong, rfl, read_of_whole h hlong hfault⟩)

theorem read_eq_tooLarge_iff (h : Method.carriesBody method = true) :
    Inbound.read limit request method = .error .tooLarge ↔
      Overflows limit request.body.chunks := by
  rcases read_cases limit request h with
    ⟨hlong, hread⟩ | ⟨hfits, cause, -, hread⟩ | ⟨hfits, -, hread⟩
  · simp [hread, hlong]
  · simp [hread, hfits]
  · simp [hread, hfits]

theorem read_eq_broken_iff (h : Method.carriesBody method = true) {cause : Text} :
    Inbound.read limit request method = .error (.broken cause) ↔
      ¬ Overflows limit request.body.chunks ∧ request.body.fault = some cause := by
  rcases read_cases limit request h with
    ⟨hlong, hread⟩ | ⟨hfits, cause, hfault, hread⟩ | ⟨hfits, hfault, hread⟩
  · simp [hread, hlong]
  · simp [hread, hfits, hfault]
  · simp [hread, hfault]

theorem read_eq_ok_iff (h : Method.carriesBody method = true) {inbound : Inbound} :
    Inbound.read limit request method = .ok inbound ↔
      ¬ Overflows limit request.body.chunks ∧ request.body.fault = none ∧
        inbound = ⟨request.fields, request.target.query, request.body.chunks.flatten⟩ := by
  rcases read_cases limit request h with
    ⟨hlong, hread⟩ | ⟨hfits, cause, hfault, hread⟩ | ⟨hfits, hfault, hread⟩
  · simp [hread, hlong]
  · simp [hread, hfault]
  · simp [hread, hfits, hfault, eq_comm]

/-- Requests that differ in nothing but the chunks of their bodies. -/
structure Request.Rechunked (r r' : Request) : Prop where
  fields : r'.fields = r.fields
  query : r'.target.query = r.target.query
  octets : r'.body.chunks.flatten = r.body.chunks.flatten
  fault : r'.body.fault = r.body.fault

theorem read_of_rechunked {other : Request} (h : request.Rechunked other) :
    Inbound.read limit other method = Inbound.read limit request method := by
  have hlong : Overflows limit other.body.chunks ↔ Overflows limit request.body.chunks := by
    rw [overflows_iff, overflows_iff, h.octets]
  cases hcarries : Method.carriesBody method with
  | false => rw [read_of_no_body hcarries, read_of_no_body hcarries, h.fields, h.query]
  | true =>
      rcases read_cases limit request hcarries with
        ⟨hover, hread⟩ | ⟨hfits, cause, hfault, hread⟩ | ⟨hfits, hfault, hread⟩
      · rw [hread, read_of_overflow hcarries (hlong.mpr hover)]
      · rw [hread, read_of_fault hcarries ((not_congr hlong).mpr hfits) (h.fault.trans hfault)]
      · rw [hread, read_of_whole hcarries ((not_congr hlong).mpr hfits) (h.fault.trans hfault),
          h.fields, h.query, h.octets]

end Read

namespace Gateway

variable {g : Gateway} {request : Request} {route : Route} {caller : Caller} {path : Text}
  {rejection : BodyRejection}

/-- A body that is not accepted is the answer, and nothing reaches the backend. -/
theorem handle_of_rejection
    (hfind : Dispatch.find request.method request.target.pathText = .route route)
    (hcaller : (g.verifier request.fields).outcome = .ok caller)
    (hpath : route.backendPath request.target.pathText = some path)
    (hread : Inbound.read g.bodyLimit request route.verb.method = .error rejection) :
    (g.handle request).result.status = rejection.status ∧
      (g.handle request).journal.backendRequests = [] := by
  constructor
  · unfold handle serve receive
    rw [hfind]
    simp only [hcaller, hpath, hread]
    exact status_finish ..
  · have hnone : g.outgoing? request = none := by
      rw [outgoing?, hfind]
      dsimp only
      rw [hcaller]
      show g.outgoingFor? route caller request = none
      rw [outgoingFor?, hpath, hread]
      rfl
    rw [backendRequests_handle, hnone]
    rfl

theorem carriesBody_of_verb (h : route.verb = .post ∨ route.verb = .patch) :
    Method.carriesBody route.verb.method = true := by
  rcases h with h | h
  · rw [h]
    rfl
  · rw [h]
    rfl

/-- **A body counts by its octets, not by its chunks.** Under a method that
carries no body the body is empty, whatever arrives. Under the other three it is
too large exactly if some chunks at the front are longer than the limit, it is
broken exactly if it breaks off and is not too large, and otherwise it is the
chunks put together; the fields and the query are those of the request. So the
chunks do not matter as long as the octets are the same. Where a verified caller
posts or patches such a body to a path that fits, the answer is 413 or 400, and
nothing reaches the backend. -/
theorem body_counts_by_octets (request : Request) :
    (∀ limit method, method ≠ Method.post → method ≠ Method.put → method ≠ Method.patch →
      Inbound.read limit request method =
        .ok ⟨request.fields, request.target.query, []⟩) ∧
    (∀ limit method, (method = Method.post ∨ method = Method.put ∨ method = Method.patch) →
      (Inbound.read limit request method = .error .tooLarge ↔
        Overflows limit request.body.chunks) ∧
      (∀ cause, Inbound.read limit request method = .error (.broken cause) ↔
        ¬ Overflows limit request.body.chunks ∧ request.body.fault = some cause) ∧
      (∀ inbound, Inbound.read limit request method = .ok inbound ↔
        ¬ Overflows limit request.body.chunks ∧ request.body.fault = none ∧
          inbound =
            ⟨request.fields, request.target.query, request.body.chunks.flatten⟩)) ∧
    (defaultBodyLimit = 2097152 ∧ BodyRejection.tooLarge.response.status.code = 413 ∧
      ∀ cause, (BodyRejection.broken cause).response.status.code = 400) ∧
    (∀ limit method other, request.Rechunked other →
      Inbound.read limit other method = Inbound.read limit request method) ∧
    ∀ (g : Gateway) route caller path,
      Dispatch.find request.method request.target.pathText = .route route →
      (route.verb = .post ∨ route.verb = .patch) →
      (g.verifier request.fields).outcome = .ok caller →
      route.backendPath request.target.pathText = some path →
      (Overflows g.bodyLimit request.body.chunks →
        (g.handle request).result.status.code = 413 ∧
          (g.handle request).journal.backendRequests = []) ∧
      (¬ Overflows g.bodyLimit request.body.chunks → request.body.fault ≠ none →
        (g.handle request).result.status.code = 400 ∧
          (g.handle request).journal.backendRequests = []) := by
  refine ⟨?_, ?_, ⟨rfl, rfl, fun cause => rfl⟩, fun limit method other => read_of_rechunked, ?_⟩
  · intro limit method hpost hput hpatch
    refine read_of_no_body (Bool.eq_false_iff.mpr fun h => ?_)
    rcases carriesBody_iff.mp h with h | h | h
    · exact hpost h
    · exact hput h
    · exact hpatch h
  · intro limit method h
    have hcarries := carriesBody_iff.mpr h
    exact ⟨read_eq_tooLarge_iff hcarries, fun cause => read_eq_broken_iff hcarries,
      fun inbound => read_eq_ok_iff hcarries⟩
  · intro g route caller path hfind hverb hcaller hpath
    have hcarries := carriesBody_of_verb hverb
    constructor
    · intro hlong
      obtain ⟨hstatus, hnothing⟩ :=
        handle_of_rejection hfind hcaller hpath (read_of_overflow hcarries hlong)
      exact ⟨congrArg Status.code hstatus, hnothing⟩
    · intro hfits hfault
      obtain ⟨cause, hcause⟩ := Option.ne_none_iff_exists'.mp hfault
      obtain ⟨hstatus, hnothing⟩ :=
        handle_of_rejection hfind hcaller hpath (read_of_fault hcarries hfits hcause)
      exact ⟨congrArg Status.code hstatus, hnothing⟩

/-- Five octets in three chunks that break off at their end: they are too large
for a limit of four, and broken for a limit of five. Had they not broken off, the
five of them would be the body. -/
theorem fifth_octet_decides :
    let body : BodyStream := ⟨[octets "ab", octets "cd", octets "e"], some "reset".toList⟩
    let request : Request := ⟨Method.post, .path "/jobs".toList none, [], body⟩
    let whole : Request := { request with body := { body with fault := none } }
    let gateway (limit : Nat) : Gateway :=
      ⟨⟨"http://127.0.0.1:55551".toList, ⟨30000⟩⟩, limit, .fixed (.ok (.ofId "u1".toList)),
        fun _ => .silent⟩
    (((gateway 4).handle request).result.status.code = 413 ∧
        ((gateway 4).handle request).journal.backendRequests = []) ∧
      (((gateway 5).handle request).result.status.code = 400 ∧
        ((gateway 5).handle request).journal.backendRequests = []) ∧
      Inbound.read 5 whole Method.put = .ok ⟨[], none, octets "abcde"⟩ := by
  intro body request whole gateway
  obtain ⟨-, -, -, -, hrouted⟩ := body_counts_by_octets request
  obtain ⟨-, hread, -⟩ := body_counts_by_octets whole
  have hfind : Dispatch.find request.method request.target.pathText =
      .route (Route.same "create_job" .post "jobs") := by decide +kernel
  have hpath : (Route.same "create_job" .post "jobs").backendPath request.target.pathText =
      some "jobs".toList := by decide +kernel
  have hlong : Overflows 4 request.body.chunks := overflows_iff.mpr (by decide)
  have hfits : ¬ Overflows 5 request.body.chunks := (not_congr overflows_iff).mpr (by decide)
  refine ⟨?_, ?_, ?_⟩
  · exact (hrouted (gateway 4) _ _ _ hfind (Or.inl rfl) rfl hpath).1 hlong
  · exact (hrouted (gateway 5) _ _ _ hfind (Or.inl rfl) rfl hpath).2 hfits (by simp [request, body])
  · exact ((hread 5 Method.put (Or.inr (Or.inl rfl))).2.2 _).mpr ⟨hfits, rfl, by decide⟩

end Gateway

end JobsGateway
