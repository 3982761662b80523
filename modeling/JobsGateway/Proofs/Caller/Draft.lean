import JobsGateway.Caller.Reader
import JobsGateway.Proofs.Json.Kind

/-!
# Reading an object member by member

The reader of a record keeps a draft and goes through the members of an object.
It reads the whole object exactly if the draft can take each of them in turn: a
key that stands for a text, and for a field that has not been read before a value
of its kind.
-/

namespace JobsGateway.Caller

open Json

/-! ## The fields of a record -/

/-- The fields that a record is asked for. -/
inductive RecordField where
  | id
  | email
  | name
  | role
  deriving DecidableEq

namespace RecordField

/-- The key of a field. -/
def key : RecordField → Text
  | .id => "id".toList
  | .email => "email".toList
  | .name => "name".toList
  | .role => "role".toList

/-- What has been read of a field. -/
def get : RecordField → Draft → Option (Option Text)
  | .id, d => d.id.map some
  | .email, d => d.email
  | .name, d => d.name
  | .role, d => d.role

/-- The draft with a value for a field. -/
def set : RecordField → Option Text → Draft → Draft
  | .id, text, d => { d with id := text }
  | .email, text, d => { d with email := some text }
  | .name, text, d => { d with name := some text }
  | .role, text, d => { d with role := some text }

/-- The value of a field is read: the id is never null. -/
def read : RecordField → Bytes → Except Fault (Option Text × Bytes)
  | .id, s => (readString s).map fun p => (some p.1, p.2)
  | _, s => readString? s

/-- What a field takes from a value. -/
def Takes : RecordField → Bytes → Option Text → Prop
  | .id, v, text => text.isSome = true ∧ TellsText v text
  | _, v, text => TellsText v text

/-- Every field but the id takes strings and null. -/
theorem takes_iff {f : RecordField} (hf : f ≠ .id) {v : Bytes} {text : Option Text} :
    f.Takes v text ↔ TellsText v text := by
  cases f with
  | id => exact absurd rfl hf
  | _ => exact Iff.rfl

theorem key_injective {f f' : RecordField} (h : f.key = f'.key) : f = f' := by
  cases f <;> cases f' <;> first | rfl | exact absurd h (by decide)

theorem get_set_of_ne {f f' : RecordField} (h : f' ≠ f) (text : Option Text) (d : Draft) :
    f'.get (f.set text d) = f'.get d := by
  cases f <;> cases f' <;> first | rfl | exact absurd rfl h

theorem get_set {f : RecordField} {v : Bytes} {text : Option Text} (h : f.Takes v text)
    (d : Draft) : f.get (f.set text d) = some text := by
  cases f with
  | id =>
      obtain ⟨text, rfl⟩ := Option.isSome_iff_exists.mp h.1
      rfl
  | _ => rfl

/-- A draft is what has been read of its fields. -/
theorem draft_ext {d d' : Draft} (h : ∀ f : RecordField, f.get d = f.get d') : d = d' := by
  have hid := (Option.map_inj_right fun _ _ => Option.some.inj).mp (h .id)
  cases d
  cases d'
  exact (Draft.mk.injEq ..).mpr ⟨hid, h .email, h .name, h .role⟩

theorem read_eq_ok_iff {f : RecordField} {w v rest after : Bytes} {text : Option Text}
    (hw : IsBlank w) (hv : IsValueText v) :
    f.read (w ++ (v ++ rest)) = .ok (text, after) ↔ f.Takes v text ∧ after = rest := by
  cases f with
  | id =>
      rw [read, Outcome.map_eq_ok_iff]
      constructor
      · rintro ⟨⟨text', after'⟩, hread, heq⟩
        cases heq
        obtain ⟨htext, rfl⟩ := (readString_eq_ok_iff hw hv).mp hread
        exact ⟨⟨rfl, htext⟩, rfl⟩
      · rintro ⟨⟨hsome, htext⟩, rfl⟩
        obtain ⟨text, rfl⟩ := Option.isSome_iff_exists.mp hsome
        exact ⟨(text, after), (readString_eq_ok_iff hw hv).mpr ⟨htext, rfl⟩, rfl⟩
  | _ => exact readString?_eq_ok_iff hw hv

end RecordField

/-! ## One member -/

/-- A field that may be missing is read once. -/
theorem readOptional_map_eq_ok_iff (name : String) (before : Option (Option Text))
    (put : Option Text → Draft) {s after : Bytes} {d' : Draft} :
    (readOptional name before s).map (fun p => (put p.1, p.2)) = .ok (d', after) ↔
      before = none ∧ ∃ text, (readColon s).bind readString? = .ok (text, after) ∧
        d' = put text := by
  unfold readOptional
  cases before with
  | some _ => simp [Except.map]
  | none =>
      rw [if_neg (by simp), Outcome.map_eq_ok_iff]
      constructor
      · rintro ⟨⟨text, after'⟩, hread, heq⟩
        cases heq
        exact ⟨rfl, text, hread, rfl⟩
      · rintro ⟨-, text, hread, rfl⟩
        exact ⟨(text, after), hread, rfl⟩

/-- The id is read once, and as a string. -/
theorem readMember_id {d d' : Draft} {s after : Bytes} :
    readMember d RecordField.id.key s = .ok (d', after) ↔
      d.id = none ∧ ∃ text, (readColon s).bind readString = .ok (text, after) ∧
        d' = { d with id := some text } := by
  have hread : readMember d RecordField.id.key s =
      if d.id.isSome then .error (giveUp (.duplicateField "id") 0x7D s)
      else ((readColon s).bind readString).map fun p => ({ d with id := some p.1 }, p.2) := rfl
  rw [hread]
  cases d.id with
  | some text => simp
  | none =>
      rw [if_neg (by simp), Outcome.map_eq_ok_iff]
      constructor
      · rintro ⟨⟨text, after'⟩, hstring, heq⟩
        cases heq
        exact ⟨rfl, text, hstring, rfl⟩
      · rintro ⟨-, text, hstring, rfl⟩
        exact ⟨(text, after), hstring, rfl⟩

/-- All fields are read alike. -/
theorem readMember_field (f : RecordField) {d d' : Draft} {s after : Bytes} :
    readMember d f.key s = .ok (d', after) ↔
      f.get d = none ∧ ∃ text, (readColon s).bind f.read = .ok (text, after) ∧
        d' = f.set text d := by
  cases f with
  | email =>
      exact readOptional_map_eq_ok_iff "email" d.email fun text => { d with email := some text }
  | name =>
      exact readOptional_map_eq_ok_iff "name" d.name fun text => { d with name := some text }
  | role =>
      exact readOptional_map_eq_ok_iff "role" d.role fun text => { d with role := some text }
  | id =>
      rw [readMember_id, RecordField.get, Option.map_eq_none_iff]
      refine and_congr_right fun _ => ?_
      constructor
      · rintro ⟨text, hread, rfl⟩
        obtain ⟨rest, hcolon, hstring⟩ := Outcome.bind_eq_ok_iff.mp hread
        exact ⟨some text, Outcome.bind_eq_ok_iff.mpr
          ⟨rest, hcolon, Outcome.map_eq_ok_iff.mpr ⟨(text, after), hstring, rfl⟩⟩, rfl⟩
      · rintro ⟨_, hread, rfl⟩
        obtain ⟨rest, hcolon, hfield⟩ := Outcome.bind_eq_ok_iff.mp hread
        obtain ⟨⟨text, after'⟩, hstring, heq⟩ := Outcome.map_eq_ok_iff.mp hfield
        cases heq
        exact ⟨text, Outcome.bind_eq_ok_iff.mpr ⟨rest, hcolon, hstring⟩, rfl⟩

/-- A member of any other key is passed over. -/
theorem readMember_other {key : Text} (h : ∀ f : RecordField, key ≠ f.key) (d : Draft)
    (s : Bytes) : readMember d key s = ((readColon s).bind skipValue).map (d, ·) := by
  have hid : key ≠ "id".toList := h .id
  have hemail : key ≠ "email".toList := h .email
  have hname : key ≠ "name".toList := h .name
  have hrole : key ≠ "role".toList := h .role
  rw [readMember, if_neg hid, if_neg hemail, if_neg hname, if_neg hrole]

/-- What a draft becomes with a member: its key stands for a text, and if it is
that of a field, the field has not been read before and takes the value. -/
def Draft.Becomes (d : Draft) (m : Member) (d' : Draft) : Prop :=
  ∃ key, m.key? = some key ∧ ∀ f : RecordField,
    if f.key = key then f.get d = none ∧ ∃ text, f.Takes m.value text ∧ f.get d' = some text
    else f.get d' = f.get d

theorem Draft.Becomes.key {d d' : Draft} {m : Member} (h : d.Becomes m d') :
    ∃ key, m.key? = some key := by
  obtain ⟨key, hkey, -⟩ := h
  exact ⟨key, hkey⟩

theorem becomes_field_iff {d d' : Draft} {m : Member} {f : RecordField}
    (hkey : m.key? = some f.key) :
    d.Becomes m d' ↔ f.get d = none ∧ ∃ text, f.Takes m.value text ∧ d' = f.set text d := by
  constructor
  · rintro ⟨key, hkey', h⟩
    cases hkey.symm.trans hkey'
    have hf := h f
    rw [if_pos rfl] at hf
    obtain ⟨hnone, text, htakes, hget⟩ := hf
    refine ⟨hnone, text, htakes, RecordField.draft_ext fun f' => ?_⟩
    by_cases hf' : f' = f
    · rw [hf', hget, RecordField.get_set htakes]
    · have hother := h f'
      rw [if_neg fun heq => hf' (RecordField.key_injective heq)] at hother
      rw [hother, RecordField.get_set_of_ne hf']
  · rintro ⟨hnone, text, htakes, rfl⟩
    refine ⟨f.key, hkey, fun f' => ?_⟩
    by_cases hf' : f' = f
    · rw [hf', if_pos rfl]
      exact ⟨hnone, text, htakes, RecordField.get_set htakes d⟩
    · rw [if_neg fun heq => hf' (RecordField.key_injective heq)]
      exact RecordField.get_set_of_ne hf' text d

theorem becomes_other_iff {d d' : Draft} {m : Member} {key : Text} (hkey : m.key? = some key)
    (h : ∀ f : RecordField, key ≠ f.key) : d.Becomes m d' ↔ d' = d := by
  constructor
  · rintro ⟨key', hkey', hall⟩
    cases hkey.symm.trans hkey'
    refine RecordField.draft_ext fun f => ?_
    have hf := hall f
    rwa [if_neg (h f).symm] at hf
  · rintro rfl
    exact ⟨key, hkey, fun f => by rw [if_neg (h f).symm]⟩

theorem readColon_append {w : Bytes} (hw : IsBlank w) (rest : Bytes) :
    readColon (w ++ 0x3A :: rest) = .ok rest := by
  rw [readColon, skipSpace_append_cons hw (by rfl)]
  rfl

/-- **One member is read,** from behind its key, exactly if the draft becomes
another one with it. -/
theorem readMember_eq_ok_iff {d d' : Draft} {m : Member} {key : Text} {w' w rest after : Bytes}
    (hkey : m.key? = some key) (hw' : IsBlank w') (hw : IsBlank w) (hv : IsValueText m.value)
    (hrest : Closes rest) :
    readMember d key (w' ++ 0x3A :: (w ++ (m.value ++ rest))) = .ok (d', after) ↔
      d.Becomes m d' ∧ after = rest := by
  by_cases hfield : ∃ f : RecordField, key = f.key
  · obtain ⟨f, rfl⟩ := hfield
    rw [readMember_field, becomes_field_iff hkey, readColon_append hw']
    simp only [Except.bind, RecordField.read_eq_ok_iff hw hv]
    constructor
    · rintro ⟨hnone, text, ⟨htakes, rfl⟩, rfl⟩
      exact ⟨⟨hnone, text, htakes, rfl⟩, rfl⟩
    · rintro ⟨⟨hnone, text, htakes, rfl⟩, rfl⟩
      exact ⟨hnone, text, ⟨htakes, rfl⟩, rfl⟩
  · have hother : ∀ f : RecordField, key ≠ f.key := fun f heq => hfield ⟨f, heq⟩
    have hskip : skipValue (w ++ (m.value ++ rest)) = .ok rest := by
      rw [skipValue, skip_value_append hw]
      exact hv.skipValue hrest
    rw [readMember_other hother, becomes_other_iff hkey hother, readColon_append hw']
    simp only [Except.bind, hskip, Except.map, Except.ok.injEq, Prod.mk.injEq, eq_comm]

/-! ## All members -/

/-- What a draft becomes with members, one after the other. -/
inductive Draft.Gathers : Draft → List Member → Draft → Prop
  | nil {d : Draft} : Gathers d [] d
  | cons {d d' d'' : Draft} {m : Member} {members : List Member} :
      d.Becomes m d' → Gathers d' members d'' → Gathers d (m :: members) d''

theorem gathers_cons_iff {d d'' : Draft} {m : Member} {members : List Member} :
    d.Gathers (m :: members) d'' ↔ ∃ d', d.Becomes m d' ∧ d'.Gathers members d'' := by
  constructor
  · rintro (_ | ⟨hone, hrest⟩)
    exact ⟨_, hone, hrest⟩
  · rintro ⟨d', hone, hrest⟩
    exact .cons hone hrest

theorem gathers_nil_iff {d d' : Draft} : d.Gathers [] d' ↔ d' = d := by
  constructor
  · rintro ⟨⟩
    rfl
  · rintro rfl
    exact .nil

/-- What stands before a member: nothing before the first one, and a comma before
the others. -/
inductive Leads : Bool → Bytes → Prop
  | first : Leads true []
  | comma {w : Bytes} : IsBlank w → Leads false (w ++ [0x2C])

theorem nextKey_of_leads {first : Bool} {lead w : Bytes} (h : Leads first lead)
    (hw : IsBlank w) (rest : Bytes) :
    nextKey first (lead ++ (w ++ 0x22 :: rest)) = .ok (some rest) := by
  cases h with
  | first =>
      rw [List.nil_append, nextKey, skipSpace_append_cons hw (by rfl)]
      rfl
  | comma hblank =>
      rw [List.append_assoc, List.singleton_append, nextKey,
        skipSpace_append_cons hblank (by rfl)]
      simp only [skipSpace_append_cons hw (by rfl : isSpace 0x22 = false)]
      rfl

theorem nextKey_of_end {w : Bytes} (hw : IsBlank w) (first : Bool) (rest : Bytes) :
    nextKey first (w ++ 0x7D :: rest) = .ok none := by
  rw [nextKey, skipSpace_append_cons hw (by rfl)]
  rfl

theorem readMembers_of_end {first : Bool} {s : Bytes} (h : nextKey first s = .ok none)
    (d : Draft) : readMembers first d s = .ok (d, s) := by
  rw [readMembers]
  split
  · rename_i heq
    cases h.symm.trans heq
  · rfl
  · rename_i heq
    cases h.symm.trans heq

theorem readMembers_of_key {first : Bool} {s rest : Bytes}
    (h : nextKey first s = .ok (some rest)) (d : Draft) :
    readMembers first d s = (readText rest).bind fun p =>
      (readMember d p.1 p.2).bind fun q => readMembers false q.1 q.2 := by
  conv =>
    lhs
    rw [readMembers]
  split
  · rename_i heq
    cases h.symm.trans heq
  · rename_i heq
    cases h.symm.trans heq
  · rename_i heq
    cases h.symm.trans heq
    split
    · rename_i he
      rw [he]
      rfl
    · rename_i he
      rw [he]
      dsimp only [Except.bind]
      split
      · rename_i hm
        rw [hm]
      · rename_i hm
        rw [hm]

/-- **A member is read, and then the rest.** -/
theorem readMembers_member {first : Bool} {lead s : Bytes} {m : Member} (hlead : Leads first lead)
    (h : m.IsWritten s) (hv : IsValueText m.value) :
    ∃ w, IsBlank w ∧ ∀ {rest}, Closes rest → ∀ {d d' after},
      readMembers first d (lead ++ (s ++ rest)) = .ok (d', after) ↔
        ∃ next, d.Becomes m next ∧ readMembers false next (w ++ rest) = .ok (d', after) := by
  obtain ⟨hw, hinside, hcolon, hbefore, hbehind⟩ := h
  refine ⟨_, hbehind, fun {rest} hrest {d d' after} => ?_⟩
  have hcloses := hrest.append hbehind
  simp only [List.append_assoc, List.cons_append]
  rw [readMembers_of_key (nextKey_of_leads hlead hw _)]
  constructor
  · intro hread
    obtain ⟨⟨key, behind⟩, htext, hread⟩ := Outcome.bind_eq_ok_iff.mp hread
    obtain ⟨hkey, rfl⟩ := (readText_eq_ok_iff hinside).mp htext
    obtain ⟨⟨next, behind⟩, hmember, hread⟩ := Outcome.bind_eq_ok_iff.mp hread
    obtain ⟨hbecomes, rfl⟩ := (readMember_eq_ok_iff hkey hcolon hbefore hv hcloses).mp hmember
    exact ⟨next, hbecomes, hread⟩
  · rintro ⟨next, hbecomes, hread⟩
    obtain ⟨key, hkey⟩ := hbecomes.key
    exact Outcome.bind_eq_ok_iff.mpr ⟨_, (readText_eq_ok_iff hinside).mpr ⟨hkey, rfl⟩,
      Outcome.bind_eq_ok_iff.mpr ⟨_,
        (readMember_eq_ok_iff hkey hcolon hbefore hv hcloses).mpr ⟨hbecomes, rfl⟩, hread⟩⟩

/-- **All members are read,** up to the closing brace. -/
theorem readMembers_items {s : Bytes} {members : List Member}
    (h : Items Member.IsWritten s members) (hv : ∀ m ∈ members, IsValueText m.value)
    {first : Bool} {lead : Bytes} (hlead : Leads first lead) (rest : Bytes) :
    ∃ w, IsBlank w ∧ ∀ {d d' after},
      readMembers first d (lead ++ (s ++ 0x7D :: rest)) = .ok (d', after) ↔
        d.Gathers members d' ∧ after = w ++ 0x7D :: rest := by
  induction h generalizing first lead with
  | last hone =>
      obtain ⟨w, hw, hread⟩ := readMembers_member hlead hone (hv _ List.mem_cons_self)
      refine ⟨w, hw, fun {d d' after} => ?_⟩
      rw [hread (closes_cons (by decide) rest)]
      simp only [readMembers_of_end (nextKey_of_end hw false rest), gathers_cons_iff,
        gathers_nil_iff, Except.ok.injEq, Prod.mk.injEq]
      constructor
      · rintro ⟨next, hbecomes, rfl, rfl⟩
        exact ⟨⟨_, hbecomes, rfl⟩, rfl⟩
      · rintro ⟨⟨next, hbecomes, rfl⟩, rfl⟩
        exact ⟨_, hbecomes, rfl, rfl⟩
  | @next s more m members hone _ ih =>
      obtain ⟨w, hw, hread⟩ := readMembers_member hlead hone (hv _ List.mem_cons_self)
      obtain ⟨w', hw', hrest⟩ :=
        ih (fun m hm => hv m (List.mem_cons_of_mem _ hm)) (.comma hw)
      refine ⟨w', hw', fun {d d' after} => ?_⟩
      rw [List.append_assoc, List.cons_append, hread (closes_cons (by decide) _),
        gathers_cons_iff]
      simp only [List.append_assoc, List.singleton_append] at hrest
      simp only [hrest]
      constructor
      · rintro ⟨next, hbecomes, hgathers, rfl⟩
        exact ⟨⟨next, hbecomes, hgathers⟩, rfl⟩
      · rintro ⟨⟨next, hbecomes, hgathers⟩, rfl⟩
        exact ⟨next, hbecomes, hgathers, rfl⟩

/-! ## The record -/

/-- **An object is read up to its end,** exactly if its members make a record. -/
theorem readObject_eq_ok_iff {body : Bytes} {members : List Member}
    (h : Row Member.IsWritten body members) (hv : ∀ m ∈ members, IsValueText m.value)
    {rest after : Bytes} {c : Caller} :
    readObject (body ++ 0x7D :: rest) = .ok (c, after) ↔
      (∃ d, Draft.empty.Gathers members d ∧ d.finish? = some c) ∧ after = rest := by
  -- What is left is the closing brace, after blanks.
  obtain ⟨w, hw, hread⟩ : ∃ w, IsBlank w ∧ ∀ {d after},
      readMembers true .empty (body ++ 0x7D :: rest) = .ok (d, after) ↔
        Draft.empty.Gathers members d ∧ after = w ++ 0x7D :: rest := by
    cases h with
    | blank hw =>
        refine ⟨_, hw, fun {d after} => ?_⟩
        rw [readMembers_of_end (nextKey_of_end hw true rest), gathers_nil_iff]
        simp only [Except.ok.injEq, Prod.mk.injEq, eq_comm]
    | items hitems =>
        obtain ⟨w, hw, hread⟩ := readMembers_items hitems hv .first rest
        exact ⟨w, hw, hread⟩
  have hend : readObjectEnd (w ++ 0x7D :: rest) = .ok rest := by
    rw [readObjectEnd, skipSpace_append_cons hw (by rfl)]
    rfl
  unfold readObject
  rw [Outcome.bind_eq_ok_iff]
  constructor
  · rintro ⟨⟨d, behind⟩, hmembers, hfinish⟩
    obtain ⟨hgathers, rfl⟩ := hread.mp hmembers
    dsimp only at hfinish
    split at hfinish
    · cases hfinish
    · rename_i caller hcaller
      rw [hend] at hfinish
      cases hfinish
      exact ⟨⟨d, hgathers, hcaller⟩, rfl⟩
  · rintro ⟨⟨d, hgathers, hcaller⟩, rfl⟩
    refine ⟨(d, w ++ 0x7D :: after), hread.mpr ⟨hgathers, rfl⟩, ?_⟩
    simp only [hcaller, hend]
    rfl

theorem readRecord_of_object {w : Bytes} (hw : IsBlank w) (body rest : Bytes) :
    readRecord (w ++ (0x7B :: (body ++ [0x7D]) ++ rest)) = readObject (body ++ 0x7D :: rest) := by
  rw [List.cons_append, List.append_assoc, readRecord, skipSpace_append_cons hw (by rfl)]
  rfl

/-- **A whole object is read** exactly if its members make a record. -/
theorem ofJson_eq_ok_iff_gathers {s : Bytes} {members : List Member} (h : IsObjectText s members)
    {c : Caller} :
    ofJson s = .ok c ↔ ∃ d, Draft.empty.Gathers members d ∧ d.finish? = some c := by
  obtain ⟨⟨hbefore, hbehind⟩, hrow, hv⟩ := h
  rw [ofJson, Outcome.mapError_eq_ok_iff, readWhole, Outcome.bind_eq_ok_iff,
    readRecord_of_object hbefore]
  constructor
  · rintro ⟨⟨caller, rest⟩, hread, hend⟩
    obtain ⟨hrecord, rfl⟩ := (readObject_eq_ok_iff hrow hv).mp hread
    simp only [skipSpace_blank hbehind] at hend
    cases hend
    exact hrecord
  · intro hrecord
    refine ⟨(c, _), (readObject_eq_ok_iff hrow hv).mpr ⟨hrecord, rfl⟩, ?_⟩
    simp only [skipSpace_blank hbehind]
    rfl

end JobsGateway.Caller
