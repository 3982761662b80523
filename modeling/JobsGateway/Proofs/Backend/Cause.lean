import JobsGateway.Backend.Failure
import JobsGateway.Proofs.Json.Printing

/-!
# Causes reach the caller

Whoever sends a request that fails in transport is told why: the texts of the
error and of its sources, the outermost first. Whatever characters are in them,
the answer is a JSON object with this one sentence in it.
-/

namespace JobsGateway

/-! ## Errors with their sources -/

/-- **The sources are told one by one,** from the outermost to the innermost. -/
theorem describe_cons (outermost : Text) (causes : List Text) :
    describe (outermost :: causes) = outermost ++ causes.flatMap (": ".toList ++ ·) := by
  unfold describe
  induction causes generalizing outermost with
  | nil => rw [List.intercalate_singleton, List.flatMap_nil, List.append_nil]
  | cons cause causes ih =>
      rw [List.intercalate_cons_cons, ih cause, List.flatMap_cons, List.append_assoc,
        List.append_assoc]
      rfl

namespace Json

/-- **A printed object with one string is read in one way only.** -/
theorem reads_of_single {key text : Text} :
    ∃ m, IsObjectText (Utf8.encode (object [(key, string text)])) [m] ∧ m.key? = some key ∧
      (∀ t, IsStringText m.value t ↔ t = text) ∧
      ∀ members, IsObjectText (Utf8.encode (object [(key, string text)])) members →
        members = [m] := by
  have hvalues : ∀ m ∈ [(key, string text)], IsValueText (Utf8.encode m.2) := by
    intro m hm
    rw [List.mem_singleton.mp hm]
    exact isValueText_string text
  have hobject := isObjectText_object hvalues
  refine ⟨_, hobject, Member.key?_ofPrinted _, fun t => ⟨fun h => ?_, ?_⟩, fun members h => ?_⟩
  · exact h.unique (isStringText_string text)
  · rintro rfl
    exact isStringText_string t
  · exact h.unique hobject

end Json

namespace Backend.Failure

open Json

theorem body_response (f : Failure) :
    f.response.body = Utf8.encode (object [("detail".toList, string f.message)]) := by
  rw [response, Response.detail, Response.json, Response.typed]

theorem message_transport (outermost : Text) (causes : List Text) :
    message (transport (describe (outermost :: causes))) =
      "Aiden API unavailable: ".toList ++ (outermost ++ causes.flatMap (": ".toList ++ ·)) :=
  congrArg ("Aiden API unavailable: ".toList ++ ·) (describe_cons outermost causes)

/-- **The cause of a failure of transport reaches the caller intact.** -/
theorem transport_cause_is_told (outermost : Text) (causes : List Text) :
    let response := (transport (describe (outermost :: causes))).response
    let sentence := "Aiden API unavailable: ".toList ++
      (outermost ++ causes.flatMap (": ".toList ++ ·))
    response.status.code = 502 ∧
    response.fields = [⟨FieldName.contentType, octets "application/json"⟩] ∧
    ∃ m, IsObjectText response.body [m] ∧ m.key? = some "detail".toList ∧
      (∀ text, IsStringText m.value text ↔ text = sentence) ∧
      ∀ members, IsObjectText response.body members → members = [m] := by
  refine ⟨rfl, rfl, ?_⟩
  rw [body_response, message_transport]
  exact reads_of_single

end Backend.Failure

end JobsGateway
