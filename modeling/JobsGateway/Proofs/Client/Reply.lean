import JobsGateway.Client.Exchange
import JobsGateway.Proofs.Client.Chunks
import JobsGateway.Proofs.Http.Fields

/-!
# What a whole reply is

The head of the final response says how its body is framed, and a body is whole
by that framing or it is not. Octets are a whole reply if they begin with such a
head and go on with a whole body, and from no others is a response read. What
the peer does after its octets counts for a body that has no other end.
-/

namespace JobsGateway.Reply

/-! ## Framing -/

/-- How the body of a response to a method is framed, by its head. Transfer
codings go before lengths, and are known since version 1.1. All lengths that are
given have to agree. -/
inductive Frames (method : Text) (head : Head) : Framing → Prop
  | none : isBodiless method head.status = true → Frames method head .none
  | chunked : isBodiless method head.status = false →
      head.fields.values FieldName.transferEncoding ≠ [] → head.isCurrent = true →
      isChunked head.fields = true → Frames method head .chunked
  | coded : isBodiless method head.status = false →
      head.fields.values FieldName.transferEncoding ≠ [] → head.isCurrent = true →
      isChunked head.fields = false → Frames method head .untilClose
  | length {n : Nat} : isBodiless method head.status = false →
      head.fields.values FieldName.transferEncoding = [] →
      head.fields.values FieldName.contentLength ≠ [] →
      (∀ v ∈ head.fields.values FieldName.contentLength, ∀ i ∈ items v,
        length? (trimBlanks i) = some n) →
      n < lengthLimit → Frames method head (.length n)
  | untilClose : isBodiless method head.status = false →
      head.fields.values FieldName.transferEncoding = [] →
      head.fields.values FieldName.contentLength = [] → Frames method head .untilClose

/-- A body that is whole by a framing, in the octets after the head. -/
inductive Carries : Framing → Bytes → Bytes → Prop
  | none {s : Bytes} : Carries .none s []
  | length {body rest : Bytes} : Carries (.length body.length) (body ++ rest) body
  | chunked {text rest body : Bytes} {spent : Nat} :
      Chunked text body spent → spent < extensionLimit → Carries .chunked (text ++ rest) body
  | untilClose {s : Bytes} : Carries .untilClose s s

/-- Octets that hold a whole reply to a request of a method, by the way that their
peer leaves off: a body that goes on up to the end of the connection is whole once
the peer has closed it, and any other is whole by itself. -/
inductive Received (parting : Parting) (method : Text) : Bytes → Response → Prop
  | mk {text rest body : Bytes} {head : Head} {framing : Framing} :
      FinalHead text head → Frames method head framing → Carries framing rest body →
      (framing = .untilClose → parting = .closes) →
      Received parting method (text ++ rest) ⟨head.status, head.fields, body⟩

theorem items_ne_nil (value : Bytes) : items value ≠ [] := by
  cases value with
  | nil => simp [items]
  | cons b rest =>
      rw [items]
      split
      · simp
      · split <;> simp

/-- The length that is read is the one that every item of every value gives. -/
theorem contentLength?_eq_some_iff {fields : Fields} {n : Nat} :
    contentLength? fields = some n ↔
      fields.values FieldName.contentLength ≠ [] ∧
        ∀ v ∈ fields.values FieldName.contentLength, ∀ i ∈ items v,
          length? (trimBlanks i) = some n := by
  have hall : (∀ v ∈ fields.values FieldName.contentLength, ∀ i ∈ items v,
      length? (trimBlanks i) = some n) ↔
      ∀ x ∈ (fields.values FieldName.contentLength).flatMap fun v =>
        (items v).map fun i => length? (trimBlanks i), x = some n := by
    simp only [List.mem_flatMap, List.mem_map]
    constructor
    · rintro h x ⟨v, hv, i, hi, rfl⟩
      exact h v hv i hi
    · intro h v hv i hi
      exact h _ ⟨v, hv, i, hi, rfl⟩
  have hnil : fields.values FieldName.contentLength = [] ↔
      ((fields.values FieldName.contentLength).flatMap fun v =>
        (items v).map fun i => length? (trimBlanks i)) = [] := by
    rw [List.flatMap_eq_nil_iff]
    constructor
    · intro h v hv
      rw [h] at hv
      cases hv
    · intro h
      rw [List.eq_nil_iff_forall_not_mem]
      intro v hv
      exact items_ne_nil v (List.map_eq_nil_iff.mp (h v hv))
  rw [hall, ne_eq, hnil, contentLength?]
  generalize ((fields.values FieldName.contentLength).flatMap fun v =>
    (items v).map fun i => length? (trimBlanks i)) = all
  cases all with
  | nil => simp
  | cons first rest =>
      cases first with
      | none => simp
      | some m =>
          simp only [List.forall_mem_cons, Option.some.injEq]
          constructor
          · intro h
            split at h
            · rename_i hrest
              cases h
              refine ⟨by simp, rfl, fun x hx => ?_⟩
              simpa using List.all_eq_true.mp hrest x hx
            · cases h
          · rintro ⟨-, rfl, hrest⟩
            rw [if_pos (List.all_eq_true.mpr fun x hx => by simp [hrest x hx])]

/-- **The framing that is found is the one that the head gives.** -/
theorem framing_eq_ok_iff {method : Text} {head : Head} {f : Framing} :
    framing method head = .ok f ↔ Frames method head f := by
  constructor
  · intro h
    unfold framing at h
    split at h
    · rename_i hbodiless
      cases h
      exact .none hbodiless
    · rename_i hbody
      rw [Bool.not_eq_true] at hbody
      split at h
      · rename_i hcoded
        rw [Fields.has_iff_values_ne_nil] at hcoded
        split at h
        · cases h
        · rename_i hcurrent
          rw [Bool.not_eq_true, Bool.not_eq_false'] at hcurrent
          split at h
          · rename_i hchunked
            cases h
            exact .chunked hbody hcoded hcurrent hchunked
          · rename_i hchunked
            cases h
            exact .coded hbody hcoded hcurrent (Bool.not_eq_true _ ▸ hchunked)
      · rename_i hplain
        rw [Bool.not_eq_true, Fields.has_eq_false_iff] at hplain
        split at h
        · rename_i n hlength
          obtain ⟨hsome, hall⟩ := contentLength?_eq_some_iff.mp hlength
          split at h
          · rename_i hlimit
            cases h
            exact .length hbody hplain hsome hall hlimit
          · cases h
        · split at h
          · cases h
          · rename_i hnone
            rw [Bool.not_eq_true, Fields.has_eq_false_iff] at hnone
            cases h
            exact .untilClose hbody hplain hnone
  · intro h
    unfold framing
    cases h with
    | none hbodiless => rw [if_pos hbodiless]
    | chunked hbody hcoded hcurrent hchunked =>
        rw [if_neg (by simp [hbody]), if_pos ((Fields.has_iff_values_ne_nil ..).mpr hcoded),
          if_neg (by simp [hcurrent]), if_pos hchunked]
    | coded hbody hcoded hcurrent hchunked =>
        rw [if_neg (by simp [hbody]), if_pos ((Fields.has_iff_values_ne_nil ..).mpr hcoded),
          if_neg (by simp [hcurrent]), if_neg (by simp [hchunked])]
    | length hbody hplain hsome hall hlimit =>
        have hlength := contentLength?_eq_some_iff.mpr ⟨hsome, hall⟩
        rw [if_neg (by simp [hbody]), (Fields.has_eq_false_iff ..).mpr hplain, hlength]
        simp only [Bool.false_eq_true, if_false, if_pos hlimit]
    | untilClose hbody hplain hnone =>
        have hlength : contentLength? head.fields = none := by
          rw [contentLength?, hnone]
          rfl
        rw [if_neg (by simp [hbody]), (Fields.has_eq_false_iff ..).mpr hplain, hlength,
          (Fields.has_eq_false_iff ..).mpr hnone]
        rfl

/-! ## Bodies and replies -/

/-- **A body is read exactly where it is whole.** One that goes on up to the end of
the connection is, if the peer closes it. -/
theorem readBody_eq_ok_iff {parting : Parting} {f : Framing} {s body : Bytes} :
    readBody parting f s = .ok body ↔
      Carries f s body ∧ (f = .untilClose → parting = .closes) := by
  cases f with
  | none =>
      constructor
      · intro h
        cases h
        exact ⟨.none, fun h => by cases h⟩
      · rintro ⟨h, -⟩
        cases h
        rfl
  | length n =>
      have hother : Framing.length n = .untilClose → parting = .closes := by simp
      rw [and_iff_left hother]
      constructor
      · intro h
        rw [readBody] at h
        split at h
        · cases h
        · rename_i hlong
          cases h
          have hcarries : Carries (.length (s.take n).length) (s.take n ++ s.drop n) (s.take n) :=
            .length
          rw [List.take_append_drop, List.length_take_of_le (Nat.le_of_not_lt hlong)] at hcarries
          exact hcarries
      · intro h
        cases h with
        | length =>
            rw [readBody, if_neg (by simp), List.take_left' rfl]
  | chunked =>
      have hlimit : 0 < extensionLimit := by decide
      have hother : Framing.chunked = .untilClose → parting = .closes := by simp
      rw [and_iff_left hother, readBody, Outcome.mapError_eq_ok_iff]
      constructor
      · intro h
        obtain ⟨text, spent, rest, htext, hspent, rfl⟩ := readChunks_eq_ok_iff.mp h
        exact .chunked htext (by omega)
      · intro h
        cases h with
        | chunked htext hspent =>
            exact readChunks_eq_ok_iff.mpr ⟨_, _, _, htext, by omega, rfl⟩
  | untilClose =>
      rw [readBody]
      constructor
      · intro h
        split at h
        · rename_i hcloses
          cases h
          exact ⟨.untilClose, fun _ => hcloses⟩
        · cases h
      · rintro ⟨h, hcloses⟩
        cases h
        rw [if_pos (hcloses rfl)]

/-- The head of a reply is read exactly if there is one that says how the body is
framed. -/
theorem read_eq_ok_iff {parting : Parting} {method : Text} {s : Bytes} {reply : Reply} :
    read parting method s = .ok reply ↔
      ∃ text rest head f, FinalHead text head ∧ Frames method head f ∧ s = text ++ rest ∧
        reply = ⟨head.status, head.fields, readBody parting f rest⟩ := by
  constructor
  · intro h
    obtain ⟨⟨head, rest⟩, hhead, h⟩ := Outcome.bind_eq_ok_iff.mp h
    obtain ⟨f, hframing, h⟩ := Outcome.bind_eq_ok_iff.mp h
    cases h
    obtain ⟨text, htext, rfl⟩ := (readFinalHead_eq_ok_iff (Nat.le_refl _)).mp hhead
    exact ⟨text, rest, head, f, htext, framing_eq_ok_iff.mp hframing, rfl, rfl⟩
  · rintro ⟨text, rest, head, f, htext, hframes, rfl, rfl⟩
    have hhead : readFinalHead (text ++ rest).length (text ++ rest) = .ok (head, rest) :=
      (readFinalHead_eq_ok_iff (Nat.le_refl _)).mpr ⟨text, htext, rfl⟩
    refine Outcome.bind_eq_ok_iff.mpr ⟨_, hhead, ?_⟩
    exact Outcome.bind_eq_ok_iff.mpr ⟨_, framing_eq_ok_iff.mpr hframes, rfl⟩

theorem whole_eq_ok_iff {reply : Reply} {response : Response} :
    reply.whole = .ok response ↔
      ∃ body, reply.body = .ok body ∧ response = ⟨reply.status, reply.fields, body⟩ := by
  unfold Reply.whole
  cases reply.body with
  | error fault =>
      constructor
      · intro h
        cases h
      · rintro ⟨body, h, -⟩
        cases h
  | ok body =>
      constructor
      · intro h
        cases h
        exact ⟨body, rfl, rfl⟩
      · rintro ⟨_, h, rfl⟩
        cases h
        rfl

/-- **A whole response is read exactly from a whole reply.** -/
theorem exists_read_iff_received {parting : Parting} {method : Text} {s : Bytes}
    {response : Response} :
    (∃ reply, read parting method s = .ok reply ∧ reply.whole = .ok response) ↔
      Received parting method s response := by
  constructor
  · rintro ⟨reply, hread, hwhole⟩
    obtain ⟨text, rest, head, f, hhead, hframes, rfl, rfl⟩ := read_eq_ok_iff.mp hread
    obtain ⟨body, hbody, rfl⟩ := whole_eq_ok_iff.mp hwhole
    obtain ⟨hcarries, hcloses⟩ := readBody_eq_ok_iff.mp hbody
    exact .mk hhead hframes hcarries hcloses
  · intro h
    cases h with
    | @mk text rest body head f hhead hframes hcarries hcloses =>
        exact ⟨_, read_eq_ok_iff.mpr ⟨text, rest, head, f, hhead, hframes, rfl, rfl⟩,
          whole_eq_ok_iff.mpr ⟨body, readBody_eq_ok_iff.mpr ⟨hcarries, hcloses⟩, rfl⟩⟩

end JobsGateway.Reply
