import JobsGateway.Backend.Crossing
import JobsGateway.Proofs.Http.Fields

/-!
# What the backend is told about the caller

A header name that begins with `x-user-` speaks of the caller. Four such names
are written from the verified caller, and what the request says under them
stays behind. Any other name of that form crosses like a name that does not
matter, so the request itself can say something about the caller exactly where
it brings such a name.
-/

namespace JobsGateway

namespace CallerField

/-- The names that speak of the caller, in any case. -/
def speaks (name : Text) : Bool :=
  "x-user-".toList.isPrefixOf (name.map Char.toLower)

/-- One of the four names that the gateway writes, in any case. -/
def isWritten (name : Text) : Bool :=
  (all.map fieldName).contains (name.map Char.toLower)

theorem value?_eq_some {f : CallerField} {c : Caller} {value : Bytes}
    (h : f.value? c = some value) : value = Utf8.encode (f.valueText c) := by
  unfold value? at h
  by_cases hall : (Utf8.encode (f.valueText c)).all isFieldOctet
  · rw [if_pos hall] at h
    exact (Option.some.inj h).symm
  · rw [if_neg hall] at h
    cases h

theorem mem_all (f : CallerField) : f ∈ all := by
  cases f <;> decide

theorem isWritten_iff (name : Text) :
    isWritten name = true ↔ ∃ f : CallerField, f.fieldName = name.map Char.toLower := by
  simp only [isWritten, List.contains_iff_mem, List.mem_map]
  exact ⟨fun ⟨f, _, hf⟩ => ⟨f, hf⟩, fun ⟨f, hf⟩ => ⟨f, mem_all f, hf⟩⟩

end CallerField

namespace Crossing

open CallerField

/-! ## The fields that the gateway writes -/

/-- What the gateway writes under a name, if the name is one of its own. -/
def writtenValues (caller : Caller) (name : Text) : List Bytes :=
  ((all.filter fun f => f.fieldName = name).map fun f =>
    Utf8.encode (f.valueText caller))

theorem callerFields_ok {caller : Caller} {fs : List CallerField} {written : Fields}
    (h : callerFields caller fs = .ok written) :
    written = fs.map fun f => ⟨f.fieldName, Utf8.encode (f.valueText caller)⟩ := by
  induction fs generalizing written with
  | nil =>
      cases h
      rfl
  | cons f fs ih =>
      simp only [callerFields] at h
      cases hv : f.value? caller with
      | none => simp [hv] at h
      | some value =>
          rw [hv] at h
          cases hrest : callerFields caller fs with
          | error g => simp [hrest, Except.map] at h
          | ok rest =>
              simp only [hrest, Except.map, Except.ok.injEq] at h
              rw [← h, ih hrest, value?_eq_some hv]
              rfl

theorem values_map_written (caller : Caller) (fs : List CallerField) (name : Text) :
    Fields.values (fs.map fun f => ⟨f.fieldName, Utf8.encode (f.valueText caller)⟩)
        name =
      (fs.filter fun f => f.fieldName = name).map fun f =>
        Utf8.encode (f.valueText caller) := by
  induction fs with
  | nil => rfl
  | cons f fs ih =>
      rw [List.map_cons, Fields.values_cons, ih]
      by_cases hn : f.fieldName = name
      · rw [if_pos hn, List.filter_cons_of_pos (by simp [hn]), List.map_cons]
      · rw [if_neg hn, List.filter_cons_of_neg (by simp [hn])]

theorem writtenValues_fieldName (caller : Caller) (f : CallerField) :
    writtenValues caller f.fieldName = [Utf8.encode (f.valueText caller)] := by
  cases f <;> rfl

theorem writtenValues_eq_nil {caller : Caller} {name : Text}
    (h : ∀ f : CallerField, f.fieldName ≠ name) : writtenValues caller name = [] := by
  unfold writtenValues
  rw [List.filter_eq_nil_iff.mpr fun f _ => by simpa using h f]
  rfl

/-! ## The fields of the request to the backend -/

/-- Whether the fields can be sent does not depend on the request. -/
theorem outbound_eq_error_iff (inbound : Fields) (caller : Option Caller)
    (f : CallerField) :
    outbound inbound caller = .error f ↔
      ∃ c, caller = some c ∧ callerFields c all = .error f := by
  cases caller with
  | none => simp [outbound]
  | some c =>
      simp only [outbound, Option.some.injEq, exists_eq_left']
      cases callerFields c all <;> simp [Except.map]

/-- Under a name stand the values that the request brings, unless they are held
back, and after them those that the gateway writes. -/
theorem values_outbound {inbound out : Fields} {caller : Option Caller}
    (h : outbound inbound caller = .ok out) (name : Text) :
    out.values name =
      (if name ∈ heldBack then [] else inbound.values name) ++
        (caller.map fun c => writtenValues c name).getD [] := by
  cases caller with
  | none =>
      cases h
      rw [Fields.values_without]
      simp
  | some c =>
      simp only [outbound] at h
      cases hw : callerFields c all with
      | error f => simp [hw, Except.map] at h
      | ok written =>
          simp only [hw, Except.map, Except.ok.injEq] at h
          rw [← h, Fields.values_append, Fields.values_without, callerFields_ok hw,
            values_map_written]
          rfl

theorem fieldName_mem_heldBack (f : CallerField) : f.fieldName ∈ heldBack := by
  cases f <;> decide

theorem not_mem_heldBack_of_speaks {name : Text} (hs : speaks name = true)
    (hw : isWritten name = false) : name.map Char.toLower ∉ heldBack := by
  intro hmem
  -- Of the names that are held back, only the four that are written begin so.
  have hcases : ∀ n ∈ heldBack, "x-user-".toList.isPrefixOf n = true →
      (all.map fieldName).contains n = true := by
    decide
  rw [isWritten, hcases _ hmem hs] at hw
  cases hw

/-- Under one of the four names stands what is known of the caller, and nothing
of the request. -/
theorem named_outbound_written {inbound out : Fields} {caller : Option Caller}
    (h : outbound inbound caller = .ok out) {name : Text} {f : CallerField}
    (hf : f.fieldName = name.map Char.toLower) :
    out.named name = (caller.map fun c => Utf8.encode (f.valueText c)).toList := by
  rw [Fields.named, values_outbound h, ← hf, if_pos (fieldName_mem_heldBack f)]
  cases caller with
  | none => rfl
  | some c => simp [writtenValues_fieldName]

/-- Any other name that speaks of the caller crosses with all its values. -/
theorem named_outbound_unwritten {inbound out : Fields} {caller : Option Caller}
    (h : outbound inbound caller = .ok out) {name : Text} (hs : speaks name = true)
    (hw : isWritten name = false) : out.named name = inbound.named name := by
  have hne : ∀ f : CallerField, f.fieldName ≠ name.map Char.toLower := by
    intro f hf
    have := (isWritten_iff name).mpr ⟨f, hf⟩
    rw [hw] at this
    cases this
  rw [Fields.named, values_outbound h, if_neg (not_mem_heldBack_of_speaks hs hw)]
  cases caller with
  | none => simp [Fields.named]
  | some c => simp [Fields.named, writtenValues_eq_nil hne]

/-- A name that does not speak of the caller crosses as the request alone says. -/
theorem named_outbound_congr {a b outA outB : Fields} {caller : Option Caller}
    (ha : outbound a caller = .ok outA) (hb : outbound b caller = .ok outB)
    {name : Text} (h : a.named name = b.named name) :
    outA.named name = outB.named name := by
  unfold Fields.named at h ⊢
  rw [values_outbound ha, values_outbound hb, h]

/-! ## Who speaks for the caller -/

/-- The fields come out alike: the same caller field cannot be sent, or all
names have the same values. -/
def SameOutcome : Except CallerField Fields → Except CallerField Fields → Prop
  | .ok a, .ok b => a.Same b
  | .error f, .error g => f = g
  | _, _ => False

/-- Every field that speaks of the caller says what the gateway knows of the
caller. -/
def SpeaksForCaller (caller : Option Caller) (out : Fields) : Prop :=
  ∀ name, speaks name = true → out.named name ≠ [] →
    ∃ (c : Caller) (f : CallerField), caller = some c ∧
      f.fieldName = name.map Char.toLower ∧
      out.named name = [Utf8.encode (f.valueText c)]

theorem speaksForCaller_iff {inbound out : Fields} {caller : Option Caller}
    (h : outbound inbound caller = .ok out) :
    SpeaksForCaller caller out ↔
      ∀ name, speaks name = true → isWritten name = false → inbound.named name = [] := by
  constructor
  · intro hall name hs hw
    rw [← named_outbound_unwritten h hs hw]
    refine Decidable.byContradiction fun hne => ?_
    obtain ⟨_, f, _, hf, _⟩ := hall name hs hne
    have := (isWritten_iff name).mpr ⟨f, hf⟩
    rw [hw] at this
    cases this
  · intro hall name hs hne
    cases hw : isWritten name with
    | false =>
        rw [named_outbound_unwritten h hs hw] at hne
        exact absurd (hall name hs hw) hne
    | true =>
        obtain ⟨f, hf⟩ := (isWritten_iff name).mp hw
        have hval := named_outbound_written h hf
        cases caller with
        | none => exact absurd hval hne
        | some c => exact ⟨c, f, rfl, hf, hval⟩

/-- Two requests that agree on all names that do not speak of the caller come
out alike exactly if they agree on the names that the gateway does not write. -/
theorem same_outbound_iff {a b outA outB : Fields} {caller : Option Caller}
    (ha : outbound a caller = .ok outA) (hb : outbound b caller = .ok outB)
    (hab : ∀ name, speaks name = false → a.named name = b.named name) :
    outA.Same outB ↔
      ∀ name, speaks name = true → isWritten name = false →
        a.named name = b.named name := by
  constructor
  · intro hsame name hs hw
    rw [← named_outbound_unwritten ha hs hw, ← named_outbound_unwritten hb hs hw]
    exact hsame name
  · intro hall name
    cases hs : speaks name with
    | false => exact named_outbound_congr ha hb (hab name hs)
    | true =>
        cases hw : isWritten name with
        | false => exact named_outbound_congr ha hb (hall name hs hw)
        | true =>
            obtain ⟨f, hf⟩ := (isWritten_iff name).mp hw
            rw [named_outbound_written ha hf, named_outbound_written hb hf]

/-- **Who speaks for the caller.** All that the backend is told about the caller
comes from the caller exactly if the request brings no name that begins with
`x-user-` other than the four that the gateway writes. Two requests that differ
only in names of that form come out alike exactly if they do not differ in such
a name, or if the caller cannot be told to the backend at all. -/
theorem outbound_speaks_for_caller_iff (inbound : Fields) (caller : Option Caller) :
    ((∀ out, outbound inbound caller = .ok out → SpeaksForCaller caller out) ↔
      ((∃ f, outbound inbound caller = .error f) ∨
        ∀ name, speaks name = true → isWritten name = false →
          inbound.named name = [])) ∧
    ∀ other : Fields,
      (∀ name, speaks name = false → inbound.named name = other.named name) →
      (SameOutcome (outbound inbound caller) (outbound other caller) ↔
        ((∃ f, outbound inbound caller = .error f) ∨
          ∀ name, speaks name = true → isWritten name = false →
            inbound.named name = other.named name)) := by
  cases hin : outbound inbound caller with
  | error f =>
      -- Whether the caller can be told does not depend on the request.
      refine ⟨⟨fun _ => Or.inl ⟨f, rfl⟩, fun _ out hout => by cases hout⟩, ?_⟩
      intro other _
      have hother : outbound other caller = .error f :=
        (outbound_eq_error_iff other caller f).mpr
          ((outbound_eq_error_iff inbound caller f).mp hin)
      rw [hother]
      exact ⟨fun _ => Or.inl ⟨f, rfl⟩, fun _ => rfl⟩
  | ok out =>
      refine ⟨⟨fun hall => Or.inr ((speaksForCaller_iff hin).mp (hall out rfl)), ?_⟩, ?_⟩
      · rintro (⟨f, hf⟩ | hall) out' hout
        · cases hf
        · cases hout
          exact (speaksForCaller_iff hin).mpr hall
      · intro other hagree
        cases hother : outbound other caller with
        | error f =>
            have := (outbound_eq_error_iff inbound caller f).mpr
              ((outbound_eq_error_iff other caller f).mp hother)
            rw [hin] at this
            cases this
        | ok out' =>
            constructor
            · intro hsame
              exact Or.inr ((same_outbound_iff hin hother hagree).mp hsame)
            · rintro (⟨f, hf⟩ | hall)
              · cases hf
              · exact (same_outbound_iff hin hother hagree).mpr hall

/-- A request that claims a role under one of the four names comes out like one
that does not. -/
theorem claimed_role_stays_behind :
    SameOutcome
      (outbound ([⟨"accept".toList, octets "*/*"⟩] ++
          [⟨CallerField.role.fieldName, octets "admin"⟩])
        (some (Caller.ofId "u1".toList)))
      (outbound [⟨"accept".toList, octets "*/*"⟩]
        (some (Caller.ofId "u1".toList))) := by
  refine ((outbound_speaks_for_caller_iff _ _).2 _ ?_).mpr (Or.inr ?_)
  · intro name hs
    refine Fields.named_append_of_ne _ fun hrole => ?_
    rw [speaks, ← hrole] at hs
    exact absurd hs (by decide)
  · intro name _ hw
    refine Fields.named_append_of_ne _ fun hrole => ?_
    rw [(isWritten_iff name).mpr ⟨.role, hrole⟩] at hw
    cases hw

/-- A request can claim groups for its caller: `x-user-groups` crosses as it
stands, and the backend cannot tell it from what the gateway says. -/
theorem claimed_groups_cross :
    ¬ ∀ (inbound : Fields) (caller : Option Caller) (out : Fields),
      outbound inbound caller = .ok out → SpeaksForCaller caller out := by
  intro hall
  obtain ⟨_, _, hnone, _⟩ :=
    hall [⟨"x-user-groups".toList, octets "admin"⟩] none _ rfl
      "x-user-groups".toList (by decide) (by decide)
  cases hnone

end Crossing

end JobsGateway
