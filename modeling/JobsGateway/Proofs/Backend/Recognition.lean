import JobsGateway.Proofs.Backend.CallerFields
import JobsGateway.Proofs.Client.Blanks
import JobsGateway.Proofs.Client.Wire
import JobsGateway.Proofs.Gateway.Exchange

/-!
# Which callers the backend can tell apart

What is known of a caller is sent as octets, and the backend reads these without
the spaces and tabs around them. So it tells two callers apart by a field
exactly if the texts of the field differ in more than such blanks at their ends,
and a role that consists of blanks is read as no role at all.
-/

namespace JobsGateway

namespace Crossing

/-- Of each field about the caller the backend reads one value. -/
theorem reads_fieldName {inbound out : Fields} {c : Caller}
    (h : outbound inbound (some c) = .ok out) (f : CallerField) :
    out.reads f.fieldName = [Utf8.encode (f.valueText c).trimField] := by
  rw [Fields.reads, values_outbound h, if_pos (fieldName_mem_heldBack f), List.nil_append]
  show (writtenValues c f.fieldName).map Reply.trimBlanks = _
  rw [writtenValues_fieldName, List.map_singleton, Reply.trimBlanks_encode]

theorem reads_eq_iff {a b outA outB : Fields} {i j : Caller}
    (hi : outbound a (some i) = .ok outA) (hj : outbound b (some j) = .ok outB)
    (f : CallerField) :
    outA.reads f.fieldName = outB.reads f.fieldName ↔
      (f.valueText i).trimField = (f.valueText j).trimField := by
  rw [reads_fieldName hi, reads_fieldName hj, List.singleton_inj]
  exact Utf8.encode_injective.eq_iff

end Crossing

/-- The role that counts is blank exactly if the caller has a role of blanks. -/
theorem Caller.trimField_roleText_eq_nil_iff (c : Caller) :
    c.roleText.trimField = [] ↔
      ∃ role, c.role = some role ∧ role ≠ [] ∧ ∀ ch ∈ role, Text.isFieldBlank ch = true := by
  have huser : ¬ ∀ ch ∈ "user".toList, Text.isFieldBlank ch = true := by
    rw [← List.all_eq_true]
    decide
  rw [Text.trimField_eq_nil_iff, roleText]
  cases c.role with
  | none => exact iff_of_false huser (by simp)
  | some role =>
      by_cases hrole : role = []
      · -- An empty role counts as `user`, like a missing one.
        subst hrole
        exact iff_of_false huser (by simp)
      · have hkept : (some role).filter (· != []) = some role := by simp [hrole]
        rw [hkept, Option.getD_some]
        simp [hrole]

namespace Backend

/-- The client adds nothing to the fields about the caller. -/
theorem values_of_mem_backendRequests {b : Backend} {network : Network} {inbound : Inbound}
    {path method : Text} {caller : Option Caller} {fields : Fields} {d : Delivery}
    (h : Crossing.outbound inbound.fields caller = .ok fields)
    (hd : d ∈ (b.forward network inbound path method caller).journal.backendRequests)
    {name : Text} (hname : name ∉ clientFields) :
    d.fields.values name = fields.values name := by
  obtain ⟨r, hbuild, -, rfl⟩ := mem_backendRequests_forward.mp hd
  obtain ⟨url, sent, -, houtbound, hout⟩ := build_eq_ok hbuild
  obtain rfl : fields = sent := Except.ok.inj (h.symm.trans houtbound)
  exact Outgoing.values_deliver_of_other hout hname

/-- **Which callers the backend can tell apart.** Whatever the two requests
bring, the backend reads the id, the email address, the name and the role of
each of two callers without the blanks at their ends, once. It reads different
values of a field exactly if the callers differ there in more than such blanks,
and an empty role exactly if the caller has a role that consists of blanks. This
is what is read of every request that reaches the backend. -/
theorem reads_callers_apart_iff {a b : Inbound} {i j : Caller} {told other : Fields}
    (hi : Crossing.outbound a.fields (some i) = .ok told)
    (hj : Crossing.outbound b.fields (some j) = .ok other) :
    (∀ f : CallerField,
      told.reads f.fieldName = [Utf8.encode (f.valueText i).trimField] ∧
      (told.reads f.fieldName ≠ other.reads f.fieldName ↔
        (f.valueText i).trimField ≠ (f.valueText j).trimField)) ∧
    ([] ∈ told.reads CallerField.role.fieldName ↔
      ∃ role, i.role = some role ∧ role ≠ [] ∧ ∀ c ∈ role, Text.isFieldBlank c = true) ∧
    ∀ (backend : Backend) (network : Network) (path method : Text) (d : Delivery),
      d ∈ (backend.forward network a path method (some i)).journal.backendRequests →
      ∀ f : CallerField, d.fields.reads f.fieldName = told.reads f.fieldName := by
  refine ⟨?_, ?_, ?_⟩
  · intro f
    exact ⟨Crossing.reads_fieldName hi f, not_congr (Crossing.reads_eq_iff hi hj f)⟩
  · rw [← Caller.trimField_roleText_eq_nil_iff, Crossing.reads_fieldName hi, List.mem_singleton]
    show Utf8.encode [] = Utf8.encode i.roleText.trimField ↔ _
    rw [Utf8.encode_injective.eq_iff, eq_comm]
  · intro backend network path method d hd f
    have hname : ∀ f ∈ CallerField.all, f.fieldName ∉ clientFields := by decide
    rw [Fields.reads, Fields.reads,
      values_of_mem_backendRequests hi hd (hname f f.mem_all)]

/-- An administrator and a user of one name are told apart by id and by role,
whatever one of the requests says about its caller. -/
theorem administrator_is_told_apart :
    ∃ told other : Fields,
      Crossing.outbound [⟨CallerField.id.fieldName, octets "u2"⟩]
        (some ⟨"u1".toList, none, some "Ada".toList, some "admin".toList⟩) = .ok told ∧
      Crossing.outbound [] (some ⟨"u2".toList, none, some "Ada".toList, none⟩) = .ok other ∧
      told.reads CallerField.id.fieldName ≠ other.reads CallerField.id.fieldName ∧
      told.reads CallerField.role.fieldName ≠ other.reads CallerField.role.fieldName ∧
      ¬ [] ∈ told.reads CallerField.role.fieldName := by
  let a : Inbound := ⟨[⟨CallerField.id.fieldName, octets "u2"⟩], none, []⟩
  let b : Inbound := ⟨[], none, []⟩
  refine ⟨_, _, rfl, rfl, ?_⟩
  obtain ⟨hread, hrole, -⟩ := reads_callers_apart_iff (a := a) (b := b)
    (i := ⟨"u1".toList, none, some "Ada".toList, some "admin".toList⟩)
    (j := ⟨"u2".toList, none, some "Ada".toList, none⟩) rfl rfl
  refine ⟨(hread .id).2.mpr (by decide), (hread .role).2.mpr (by decide), ?_⟩
  rw [hrole]
  rintro ⟨role, hsome, -, hblank⟩
  cases hsome
  rw [← List.all_eq_true] at hblank
  exact absurd hblank (by decide)

/-- The id `u1` and the id that has a space after it cannot be told apart, nor
can a role and the same with a tab after it; and a role that is one space is
read as an empty one. -/
theorem blank_ends_are_not_told_apart :
    (¬ ∀ (a b told other : Fields) (i j : Caller),
        Crossing.outbound a (some i) = .ok told → Crossing.outbound b (some j) = .ok other →
        i.id ≠ j.id →
        told.reads CallerField.id.fieldName ≠ other.reads CallerField.id.fieldName) ∧
    (¬ ∀ (a b told other : Fields) (i j : Caller),
        Crossing.outbound a (some i) = .ok told → Crossing.outbound b (some j) = .ok other →
        i.roleText ≠ j.roleText →
        told.reads CallerField.role.fieldName ≠ other.reads CallerField.role.fieldName) ∧
    ¬ ∀ (a told : Fields) (i : Caller), Crossing.outbound a (some i) = .ok told →
        [] ∉ told.reads CallerField.role.fieldName := by
  refine ⟨?_, ?_, ?_⟩
  · intro hid
    exact hid [] [] _ _ (Caller.ofId "u1".toList) (Caller.ofId "u1 ".toList) rfl rfl
      (by decide) (by decide)
  · intro hrole
    exact hrole [] [] _ _ ⟨"u1".toList, none, none, some "admin".toList⟩
      ⟨"u1".toList, none, none, some "admin\t".toList⟩ rfl rfl (by decide) (by decide)
  · intro hempty
    exact hempty [] _ ⟨"u1".toList, none, none, some " ".toList⟩ rfl (by decide)

end Backend

end JobsGateway
