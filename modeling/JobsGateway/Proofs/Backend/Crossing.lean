import JobsGateway.Proofs.Backend.CallerFields

/-!
# What crosses to the backend

The fields of a request cross under their names with all their values, in order.
Eleven names do not: seven about the connection, the host and the length, and
the four that tell who the caller is. Under these four stands what is known of
the caller, and nothing else. If one of the four values cannot be sent, nothing
crosses, and the first such value is to blame, whatever the request brings.
-/

namespace JobsGateway

/-! ## Values that cannot be sent -/

/-- A control octet other than the tab. -/
def IsControlOctet (b : UInt8) : Prop :=
  (b < 0x20 ∧ b ≠ 0x09) ∨ b = 0x7F

/-- A text that has a control octet in it, and so cannot be the value of a
field. -/
def Text.IsUnsendable (text : Text) : Prop :=
  ∃ b ∈ Utf8.encode text, IsControlOctet b

theorem isFieldOctet_eq_false_iff (b : UInt8) : isFieldOctet b = false ↔ IsControlOctet b := by
  have hle : ¬ 0x20 ≤ b ↔ b < 0x20 := UInt8.not_le
  unfold isFieldOctet IsControlOctet
  simp only [Bool.or_eq_false_iff, beq_eq_false_iff_ne, Bool.and_eq_false_iff,
    decide_eq_false_iff_not, bne_eq_false_iff_eq, hle]
  constructor
  · rintro ⟨htab, hlow | hdelete⟩
    · exact Or.inl ⟨hlow, htab⟩
    · exact Or.inr hdelete
  · rintro (⟨hlow, htab⟩ | rfl)
    · exact ⟨htab, Or.inl hlow⟩
    · exact ⟨by decide, Or.inr rfl⟩

namespace CallerField

theorem value?_eq_none_iff (f : CallerField) (c : Caller) :
    f.value? c = none ↔ (f.valueText c).IsUnsendable := by
  have hnone : f.value? c = none ↔ (Utf8.encode (f.valueText c)).all isFieldOctet = false := by
    show (if (Utf8.encode (f.valueText c)).all isFieldOctet = true then _ else none) = none ↔ _
    by_cases hall : (Utf8.encode (f.valueText c)).all isFieldOctet = true
    · simp [hall]
    · simp [hall]
  rw [hnone, List.all_eq_false]
  constructor
  · rintro ⟨b, hb, hfield⟩
    exact ⟨b, hb, (isFieldOctet_eq_false_iff b).mp (by simpa using hfield)⟩
  · rintro ⟨b, hb, hcontrol⟩
    exact ⟨b, hb, by simp [(isFieldOctet_eq_false_iff b).mpr hcontrol]⟩

end CallerField

/-! ## What is told about a caller -/

/-- The role of a caller, which is `user` where it is absent or empty. -/
def Caller.effectiveRole (c : Caller) : Text :=
  match c.role with
  | none => "user".toList
  | some [] => "user".toList
  | some role => role

/-- The four names that speak of a caller and what is told under them, in
order. -/
def Caller.told (c : Caller) : List (Text × Text) :=
  [("x-user-id".toList, c.id), ("x-user-email".toList, c.email.getD []),
    ("x-user-name".toList, c.name.getD []), ("x-user-role".toList, c.effectiveRole)]

theorem Caller.roleText_eq (c : Caller) : c.roleText = c.effectiveRole := by
  unfold roleText effectiveRole
  cases c.role with
  | none => rfl
  | some role => cases role <;> rfl

theorem Caller.told_eq (c : Caller) :
    c.told = CallerField.all.map fun f => (f.fieldName, f.valueText c) := by
  show _ = [(_, c.id), (_, c.emailText), (_, c.nameText), (_, c.roleText)]
  rw [c.roleText_eq]
  rfl

namespace Crossing

open CallerField

/-- The four names of the fields about the caller. -/
def callerNames : List Text :=
  ["x-user-id", "x-user-email", "x-user-name", "x-user-role"].map String.toList

/-- The names of the fields about the host, the length and the connection. -/
def framingNames : List Text :=
  ["host", "content-length", "connection", "keep-alive", "proxy-connection",
    "transfer-encoding", "upgrade"].map String.toList

theorem mem_heldBack_iff (name : Text) :
    name ∈ heldBack ↔ name ∈ callerNames ∨ name ∈ framingNames := by
  have hperm : heldBack.Perm (callerNames ++ framingNames) := by decide
  rw [hperm.mem_iff, List.mem_append]

theorem lookup_told (c : Caller) (f : CallerField) :
    c.told.lookup f.fieldName = some (f.valueText c) := by
  rw [c.told_eq]
  cases f <;> rfl

theorem mem_callerNames_iff (name : Text) :
    name ∈ callerNames ↔ ∃ f : CallerField, f.fieldName = name := by
  have hnames : callerNames = all.map fieldName := rfl
  rw [hnames, List.mem_map]
  exact ⟨fun ⟨f, _, hf⟩ => ⟨f, hf⟩, fun ⟨f, hf⟩ => ⟨f, f.mem_all, hf⟩⟩

/-! ## The first value that cannot be sent -/

/-- The fields are taken in order, so the first value that cannot be sent is the
one that is reported. -/
theorem callerFields_eq_error_iff (c : Caller) (f : CallerField) (fs : List CallerField) :
    callerFields c fs = .error f ↔
      ∃ earlier later, fs = earlier ++ f :: later ∧ (f.valueText c).IsUnsendable ∧
        ∀ g ∈ earlier, ¬ (g.valueText c).IsUnsendable := by
  induction fs with
  | nil => simp [callerFields]
  | cons g fs ih =>
      rw [callerFields]
      cases hg : g.value? c with
      | none =>
          have hbad := (g.value?_eq_none_iff c).mp hg
          constructor
          · intro h
            cases h
            exact ⟨[], fs, rfl, hbad, by simp⟩
          · rintro ⟨earlier, later, hsplit, -, hgood⟩
            cases earlier with
            | nil => rw [(List.cons.inj hsplit).1]
            | cons e earlier =>
                rw [← (List.cons.inj hsplit).1] at hgood
                exact absurd hbad (hgood g List.mem_cons_self)
      | some value =>
          have hgood : ¬ (g.valueText c).IsUnsendable := by
            rw [← g.value?_eq_none_iff, hg]
            simp
          have hmap : (callerFields c fs).map (⟨g.fieldName, value⟩ :: ·) = .error f ↔
              callerFields c fs = .error f := by
            cases callerFields c fs <;> simp [Except.map]
          simp only [hmap, ih]
          constructor
          · rintro ⟨earlier, later, rfl, hbad, hall⟩
            exact ⟨g :: earlier, later, rfl, hbad, List.forall_mem_cons.mpr ⟨hgood, hall⟩⟩
          · rintro ⟨earlier, later, hsplit, hbad, hall⟩
            cases earlier with
            | nil =>
                rw [← (List.cons.inj hsplit).1] at hbad
                exact absurd hbad hgood
            | cons e earlier =>
                exact ⟨earlier, later, (List.cons.inj hsplit).2, hbad,
                  fun g hg => hall g (List.mem_cons_of_mem e hg)⟩

/-- The field to blame is the first of the four whose value cannot be sent. -/
theorem outbound_eq_error_iff_first (inbound : Fields) (c : Caller) (f : CallerField) :
    outbound inbound (some c) = .error f ↔
      ∃ earlier value later, c.told = earlier ++ (f.fieldName, value) :: later ∧
        value.IsUnsendable ∧ ∀ p ∈ earlier, ¬ p.2.IsUnsendable := by
  rw [outbound_eq_error_iff]
  simp only [Option.some.injEq, exists_eq_left', callerFields_eq_error_iff]
  rw [c.told_eq]
  constructor
  · rintro ⟨earlier, later, hall, hbad, hgood⟩
    refine ⟨earlier.map fun g => (g.fieldName, g.valueText c), f.valueText c,
      later.map fun g => (g.fieldName, g.valueText c), ?_, hbad, ?_⟩
    · rw [hall, List.map_append, List.map_cons]
    · intro p hp
      obtain ⟨g, hg, rfl⟩ := List.mem_map.mp hp
      exact hgood g hg
  · rintro ⟨earlier, value, later, hsplit, hbad, hgood⟩
    obtain ⟨before, rest, hall, rfl, hrest⟩ := List.map_eq_append_iff.mp hsplit
    obtain ⟨g, after, rfl, hg, -⟩ := List.map_eq_cons_iff.mp hrest
    obtain ⟨hname, rfl⟩ := Prod.mk.inj hg
    have hfield : g = f := by
      cases g <;> cases f <;> first | rfl | exact absurd hname (by decide)
    subst hfield
    exact ⟨before, after, hall, hbad, fun e he => hgood _ (List.mem_map_of_mem he)⟩

theorem exists_callerFields_eq_error_iff (c : Caller) (fs : List CallerField) :
    (∃ f, callerFields c fs = .error f) ↔ ∃ f ∈ fs, (f.valueText c).IsUnsendable := by
  induction fs with
  | nil => simp [callerFields]
  | cons g fs ih =>
      have hsplit : (∃ f ∈ g :: fs, (f.valueText c).IsUnsendable) ↔
          g.value? c = none ∨ ∃ f, callerFields c fs = .error f := by
        rw [ih, g.value?_eq_none_iff]
        simp
      rw [hsplit, callerFields]
      cases g.value? c with
      | none => simp
      | some value => cases callerFields c fs <;> simp [Except.map]

/-- Nothing crosses exactly if one of the four values cannot be sent. -/
theorem exists_outbound_eq_error_iff (inbound : Fields) (c : Caller) :
    (∃ f, outbound inbound (some c) = .error f) ↔ ∃ p ∈ c.told, p.2.IsUnsendable := by
  simp only [outbound_eq_error_iff, Option.some.injEq, exists_eq_left',
    exists_callerFields_eq_error_iff]
  rw [c.told_eq]
  constructor
  · rintro ⟨f, hf, hbad⟩
    exact ⟨_, List.mem_map_of_mem hf, hbad⟩
  · rintro ⟨p, hp, hbad⟩
    obtain ⟨f, hf, rfl⟩ := List.mem_map.mp hp
    exact ⟨f, hf, hbad⟩

/-! ## The values under every name -/

/-- Under each of the four names stands what is told of the caller, under the
names of the connection nothing, and under any other what the request brings. -/
theorem named_outbound {inbound out : Fields} {caller : Option Caller}
    (h : outbound inbound caller = .ok out) (name : Text) :
    out.named name =
      if name.map Char.toLower ∈ callerNames then
        ((caller.bind fun c => c.told.lookup (name.map Char.toLower)).map Utf8.encode).toList
      else if name.map Char.toLower ∈ framingNames then []
      else inbound.named name := by
  by_cases hcaller : name.map Char.toLower ∈ callerNames
  · rw [if_pos hcaller]
    obtain ⟨f, hf⟩ := (mem_callerNames_iff _).mp hcaller
    rw [named_outbound_written h hf, ← hf]
    cases caller with
    | none => rfl
    | some c => simp [lookup_told]
  · rw [if_neg hcaller]
    have hwritten : ∀ c, writtenValues c (name.map Char.toLower) = [] := fun c =>
      writtenValues_eq_nil fun f hf => hcaller ((mem_callerNames_iff _).mpr ⟨f, hf⟩)
    have hheld : name.map Char.toLower ∈ heldBack ↔ name.map Char.toLower ∈ framingNames := by
      rw [mem_heldBack_iff, or_iff_right hcaller]
    show out.values _ = if _ then [] else inbound.values _
    rw [values_outbound h]
    cases caller with
    | none => simp [hheld]
    | some c => simp [hheld, hwritten]

/-- Two requests that agree on all names but the eleven come out alike. -/
theorem sameOutcome_outbound {inbound other : Fields} (caller : Option Caller)
    (hagree : ∀ name, name.map Char.toLower ∉ callerNames →
      name.map Char.toLower ∉ framingNames → inbound.named name = other.named name) :
    SameOutcome (outbound inbound caller) (outbound other caller) := by
  cases hin : outbound inbound caller with
  | error f =>
      -- Which value is to blame does not depend on the request.
      rw [(outbound_eq_error_iff other caller f).mpr
        ((outbound_eq_error_iff inbound caller f).mp hin)]
      rfl
  | ok out =>
      cases hother : outbound other caller with
      | error f =>
          have hfail := (outbound_eq_error_iff inbound caller f).mpr
            ((outbound_eq_error_iff other caller f).mp hother)
          rw [hin] at hfail
          cases hfail
      | ok out' =>
          intro name
          rw [named_outbound hin, named_outbound hother]
          by_cases hcaller : name.map Char.toLower ∈ callerNames
          · rw [if_pos hcaller, if_pos hcaller]
          · rw [if_neg hcaller, if_neg hcaller]
            by_cases hframing : name.map Char.toLower ∈ framingNames
            · rw [if_pos hframing, if_pos hframing]
            · rw [if_neg hframing, if_neg hframing, hagree name hcaller hframing]

/-- **What crosses.** Without a caller the fields always cross. With one they
cross exactly if none of the four values about it has a control octet, and if
one has, the first of them is to blame, whatever the request brings. What
crosses has under each of the four names, in any case, the one value of the
caller, or none without a caller; nothing under the seven names of the
connection, the host and the length; and under any other name all values of the
request, in order. So the eleven names of a request never matter. -/
theorem outbound_replaces_or_refuses (inbound : Fields) (caller : Option Caller) :
    (caller = none → ∃ out, outbound inbound caller = .ok out) ∧
    (∀ c, caller = some c →
      ((∃ f, outbound inbound caller = .error f) ↔ ∃ p ∈ c.told, p.2.IsUnsendable) ∧
      ∀ f, outbound inbound caller = .error f ↔
        ∃ earlier value later, c.told = earlier ++ (f.fieldName, value) :: later ∧
          value.IsUnsendable ∧ ∀ p ∈ earlier, ¬ p.2.IsUnsendable) ∧
    (∀ out, outbound inbound caller = .ok out → ∀ name,
      out.named name =
        if name.map Char.toLower ∈ callerNames then
          ((caller.bind fun c => c.told.lookup (name.map Char.toLower)).map
            Utf8.encode).toList
        else if name.map Char.toLower ∈ framingNames then []
        else inbound.named name) ∧
    ∀ other : Fields,
      (∀ name, name.map Char.toLower ∉ callerNames →
        name.map Char.toLower ∉ framingNames → inbound.named name = other.named name) →
      SameOutcome (outbound inbound caller) (outbound other caller) := by
  refine ⟨?_, ?_, ?_, ?_⟩
  · rintro rfl
    exact ⟨_, rfl⟩
  · rintro c rfl
    exact ⟨exists_outbound_eq_error_iff inbound c, outbound_eq_error_iff_first inbound c⟩
  · intro out hout name
    exact named_outbound hout name
  · intro other hagree
    exact sameOutcome_outbound caller hagree

/-- A request that claims an id twice, in two spellings, comes out with the id
of the caller alone. -/
theorem claimed_ids_are_replaced :
    ∃ out, outbound [Field.of "X-User-Id".toList (octets "root"),
        Field.of "Accept".toList (octets "*/*"),
        Field.of "x-USER-id".toList (octets "admin")]
      (some (Caller.ofId "u1".toList)) = .ok out ∧
      out.named "X-User-ID".toList = [octets "u1"] ∧
      out.named "ACCEPT".toList = [octets "*/*"] := by
  obtain ⟨-, -, hvalues, -⟩ := outbound_replaces_or_refuses
    [Field.of "X-User-Id".toList (octets "root"), Field.of "Accept".toList (octets "*/*"),
      Field.of "x-USER-id".toList (octets "admin")] (some (Caller.ofId "u1".toList))
  refine ⟨_, rfl, ?_, ?_⟩
  · rw [hvalues _ rfl]
    decide
  · rw [hvalues _ rfl]
    decide

end Crossing

end JobsGateway
