import JobsGateway.Proofs.Caller.Draft
import JobsGateway.Proofs.Json.Printing

/-!
# Records of callers

A JSON object tells who the caller is if it has one `id`, a string, and at most
one email, name and role, each a string or null. Which other members it has, in
which order, and how the characters are escaped makes no difference. What is
printed of a caller tells of that caller.
-/

namespace JobsGateway.Caller

open Json

/-! ## What the members say -/

/-- What has been read of a field, before and after some values that are given
for it: one value at most, and none where there was one. -/
def RecordField.Told (f : RecordField) (before after : Option (Option Text)) :
    List Bytes → Prop
  | [] => after = before
  | [v] => before = none ∧ ∃ text, f.Takes v text ∧ after = some text
  | _ => False

theorem told_cons_iff {f : RecordField} {before after : Option (Option Text)} {v : Bytes}
    {values : List Bytes} :
    f.Told before after (v :: values) ↔
      before = none ∧ ∃ text, f.Takes v text ∧ f.Told (some text) after values := by
  cases values with
  | nil => rfl
  | cons second values =>
      constructor
      · intro h
        cases h
      · rintro ⟨-, text, -, h⟩
        cases values with
        | nil => cases h.1
        | cons third values => cases h

theorem valuesOf_cons (m : Member) (members : List Member) (name : Text) :
    valuesOf (m :: members) name =
      if m.key? = some name then m.value :: valuesOf members name
      else valuesOf members name := by
  unfold valuesOf
  rw [List.filter_cons]
  by_cases h : m.key? = some name
  · simp [h]
  · simp [h]

/-- What is told of a field with a member is told after it. -/
theorem Draft.Becomes.told {d next : Draft} {m : Member} {members : List Member}
    {f : RecordField} {after : Option (Option Text)} (h : d.Becomes m next)
    (htold : f.Told (f.get next) after (valuesOf members f.key)) :
    f.Told (f.get d) after (valuesOf (m :: members) f.key) := by
  obtain ⟨key, hkey, hbecomes⟩ := h
  have hf := hbecomes f
  rw [valuesOf_cons, hkey]
  by_cases hfield : f.key = key
  · rw [if_pos hfield] at hf
    obtain ⟨hnone, text, htakes, hget⟩ := hf
    rw [if_pos (by rw [hfield]), told_cons_iff]
    exact ⟨hnone, text, htakes, hget ▸ htold⟩
  · rw [if_neg hfield] at hf
    rw [if_neg fun heq => hfield (Option.some.inj heq).symm]
    exact hf ▸ htold

/-- A draft takes the first member, if it is told the values of all. -/
theorem exists_becomes {d : Draft} {m : Member} {members : List Member} {key : Text}
    {after : RecordField → Option (Option Text)} (hkey : m.key? = some key)
    (htold : ∀ f : RecordField, f.Told (f.get d) (after f) (valuesOf (m :: members) f.key)) :
    ∃ next, d.Becomes m next ∧
      ∀ f : RecordField, f.Told (f.get next) (after f) (valuesOf members f.key) := by
  simp only [valuesOf_cons, hkey, Option.some.injEq] at htold
  by_cases hfield : ∃ f : RecordField, key = f.key
  · obtain ⟨f, rfl⟩ := hfield
    have hf := htold f
    rw [if_pos rfl, told_cons_iff] at hf
    obtain ⟨hnone, text, htakes, hf⟩ := hf
    refine ⟨f.set text d, (becomes_field_iff hkey).mpr ⟨hnone, text, htakes, rfl⟩, fun f' => ?_⟩
    by_cases hf' : f' = f
    · rw [hf', RecordField.get_set htakes]
      exact hf
    · have hother := htold f'
      rw [if_neg fun heq => hf' (RecordField.key_injective heq).symm] at hother
      rwa [RecordField.get_set_of_ne hf']
  · have hother : ∀ f : RecordField, key ≠ f.key := fun f heq => hfield ⟨f, heq⟩
    refine ⟨d, (becomes_other_iff hkey hother).mpr rfl, fun f => ?_⟩
    have hf := htold f
    rwa [if_neg (hother f)] at hf

/-- **Members are gathered field by field,** so their order does not count. -/
theorem gathers_iff {d d' : Draft} {members : List Member} :
    d.Gathers members d' ↔ (∀ m ∈ members, ∃ key, m.key? = some key) ∧
      ∀ f : RecordField, f.Told (f.get d) (f.get d') (valuesOf members f.key) := by
  induction members generalizing d with
  | nil =>
      rw [gathers_nil_iff]
      constructor
      · rintro rfl
        exact ⟨fun m hm => (nomatch hm), fun f => rfl⟩
      · rintro ⟨-, htold⟩
        exact RecordField.draft_ext htold
  | cons m members ih =>
      rw [gathers_cons_iff, List.forall_mem_cons]
      constructor
      · rintro ⟨next, hbecomes, hgathers⟩
        obtain ⟨hkeys, htold⟩ := ih.mp hgathers
        exact ⟨⟨hbecomes.key, hkeys⟩, fun f => hbecomes.told (htold f)⟩
      · rintro ⟨⟨⟨key, hkey⟩, hkeys⟩, htold⟩
        obtain ⟨next, hbecomes, htold⟩ := exists_becomes hkey htold
        exact ⟨next, hbecomes, ih.mpr ⟨hkeys, htold⟩⟩

/-- The values given for a field are none, or one that is a string or null. -/
def Tells (values : List Bytes) (text : Option Text) : Prop :=
  values = [] ∧ text = none ∨ ∃ v, values = [v] ∧ TellsText v text

/-- The members of an object describe a caller. -/
structure Describes (members : List Member) (c : Caller) : Prop where
  keys : ∀ m ∈ members, ∃ key, m.key? = some key
  id : ∃ v, valuesOf members "id".toList = [v] ∧ IsStringText v c.id
  email : Tells (valuesOf members "email".toList) c.email
  name : Tells (valuesOf members "name".toList) c.name
  role : Tells (valuesOf members "role".toList) c.role

/-- An optional field is told what its values tell. -/
theorem exists_told_iff {f : RecordField} (hf : f ≠ .id) {values : List Bytes}
    {text : Option Text} :
    (∃ after, f.Told none after values ∧ after.join = text) ↔ Tells values text := by
  match values with
  | [] => simp [RecordField.Told, Tells, eq_comm]
  | [v] =>
      simp only [RecordField.Told, Tells, RecordField.takes_iff hf, true_and]
      constructor
      · rintro ⟨after, ⟨text', htext, rfl⟩, rfl⟩
        exact Or.inr ⟨v, rfl, htext⟩
      · rintro (⟨hnil, -⟩ | ⟨v', heq, htext⟩)
        · cases hnil
        · cases heq
          exact ⟨_, ⟨text, htext, rfl⟩, rfl⟩
  | _ :: _ :: _ => simp [RecordField.Told, Tells]

theorem told_id_iff {values : List Bytes} {id : Text} :
    RecordField.id.Told none (some (some id)) values ↔
      ∃ v, values = [v] ∧ IsStringText v id := by
  match values with
  | [] => simp [RecordField.Told]
  | [v] => simp [RecordField.Told, RecordField.Takes, TellsText]
  | _ :: _ :: _ => simp [RecordField.Told]

/-- **Members make a record of a caller** exactly if they describe that caller. -/
theorem exists_gathers_iff {members : List Member} {c : Caller} :
    (∃ d, Draft.empty.Gathers members d ∧ d.finish? = some c) ↔ Describes members c := by
  constructor
  · rintro ⟨d, hgathers, hfinish⟩
    obtain ⟨hkeys, htold⟩ := gathers_iff.mp hgathers
    obtain ⟨id, hid, rfl⟩ := Option.map_eq_some_iff.mp hfinish
    have hget : RecordField.id.get d = some (some id) := by rw [RecordField.get, hid]; rfl
    exact {
      keys := hkeys
      id := told_id_iff.mp (hget ▸ htold .id)
      email := (exists_told_iff (f := .email) (by decide)).mp ⟨_, htold .email, rfl⟩
      name := (exists_told_iff (f := .name) (by decide)).mp ⟨_, htold .name, rfl⟩
      role := (exists_told_iff (f := .role) (by decide)).mp ⟨_, htold .role, rfl⟩ }
  · intro h
    obtain ⟨email, hemail, heq⟩ := (exists_told_iff (f := .email) (by decide)).mpr h.email
    obtain ⟨name, hname, heq'⟩ := (exists_told_iff (f := .name) (by decide)).mpr h.name
    obtain ⟨role, hrole, heq''⟩ := (exists_told_iff (f := .role) (by decide)).mpr h.role
    refine ⟨⟨some c.id, email, name, role⟩, gathers_iff.mpr ⟨h.keys, fun f => ?_⟩, ?_⟩
    · cases f with
      | id => exact told_id_iff.mpr h.id
      | email => exact hemail
      | name => exact hname
      | role => exact hrole
    · rw [Draft.finish?, heq, heq', heq'']
      rfl

theorem ofJson_eq_ok_iff {s : Bytes} {members : List Member} (h : IsObjectText s members)
    {c : Caller} : ofJson s = .ok c ↔ Describes members c :=
  (ofJson_eq_ok_iff_gathers h).trans exists_gathers_iff

/-! ## Order, success, and records that are printed -/

theorem valuesOf_perm {members members' : List Member} (h : members.Perm members')
    (name : Text) : (valuesOf members name).Perm (valuesOf members' name) :=
  (h.filter _).map _

theorem Tells.perm {values values' : List Bytes} {text : Option Text} (h : Tells values text)
    (hperm : values.Perm values') : Tells values' text := by
  rcases h with ⟨rfl, htext⟩ | ⟨v, rfl, htext⟩
  · exact Or.inl ⟨hperm.symm.eq_nil, htext⟩
  · exact Or.inr ⟨v, List.perm_singleton.mp hperm.symm, htext⟩

/-- Members in another order describe the same caller. -/
theorem Describes.perm {members members' : List Member} {c : Caller} (h : Describes members c)
    (hperm : members.Perm members') : Describes members' c where
  keys m hm := h.keys m (hperm.mem_iff.mpr hm)
  id := by
    obtain ⟨v, hv, hid⟩ := h.id
    have hvalues := valuesOf_perm hperm "id".toList
    rw [hv] at hvalues
    exact ⟨v, List.perm_singleton.mp hvalues.symm, hid⟩
  email := h.email.perm (valuesOf_perm hperm _)
  name := h.name.perm (valuesOf_perm hperm _)
  role := h.role.perm (valuesOf_perm hperm _)

theorem exists_tells_iff {values : List Bytes} :
    (∃ text, Tells values text) ↔
      values = [] ∨ ∃ v, values = [v] ∧ (v = octets "null" ∨ ∃ text, IsStringText v text) := by
  constructor
  · rintro ⟨text, ⟨hnil, -⟩ | ⟨v, hv, htext⟩⟩
    · exact Or.inl hnil
    · cases text with
      | none => exact Or.inr ⟨v, hv, Or.inl htext⟩
      | some text => exact Or.inr ⟨v, hv, Or.inr ⟨text, htext⟩⟩
  · rintro (hnil | ⟨v, hv, hnull | ⟨text, htext⟩⟩)
    · exact ⟨none, Or.inl ⟨hnil, rfl⟩⟩
    · exact ⟨none, Or.inr ⟨v, hv, hnull⟩⟩
    · exact ⟨some text, Or.inr ⟨v, hv, htext⟩⟩

/-- The keys of the fields that may be missing. -/
def optionalKeys : List Text :=
  ["email".toList, "name".toList, "role".toList]

/-- When members describe a caller at all. -/
theorem exists_describes_iff {members : List Member} :
    (∃ c, Describes members c) ↔ (∀ m ∈ members, ∃ key, m.key? = some key) ∧
      (∃ v text, valuesOf members "id".toList = [v] ∧ IsStringText v text) ∧
      ∀ name ∈ optionalKeys, valuesOf members name = [] ∨ ∃ v, valuesOf members name = [v] ∧
        (v = octets "null" ∨ ∃ text, IsStringText v text) := by
  constructor
  · rintro ⟨c, h⟩
    obtain ⟨v, hv, hid⟩ := h.id
    refine ⟨h.keys, ⟨v, c.id, hv, hid⟩, fun name hname => exists_tells_iff.mp ?_⟩
    simp only [optionalKeys, List.mem_cons, List.not_mem_nil, or_false] at hname
    rcases hname with rfl | rfl | rfl
    · exact ⟨_, h.email⟩
    · exact ⟨_, h.name⟩
    · exact ⟨_, h.role⟩
  · rintro ⟨hkeys, ⟨v, id, hv, hid⟩, hfields⟩
    obtain ⟨email, hemail⟩ := exists_tells_iff.mpr (hfields "email".toList (by decide))
    obtain ⟨name, hname⟩ := exists_tells_iff.mpr (hfields "name".toList (by decide))
    obtain ⟨role, hrole⟩ := exists_tells_iff.mpr (hfields "role".toList (by decide))
    exact ⟨⟨id, email, name, role⟩, hkeys, ⟨v, hv, hid⟩, hemail, hname, hrole⟩

theorem tellsText_string? (text : Option Text) :
    TellsText (Utf8.encode (string? text)) text := by
  cases text with
  | none => rfl
  | some text => exact isStringText_string text

/-- The members that are printed of a caller. -/
def printed (c : Caller) : List (Text × Text) := [
  ("id".toList, Json.string c.id),
  ("email".toList, Json.string? c.email),
  ("name".toList, Json.string? c.name),
  ("role".toList, Json.string? c.role)]

theorem isObjectText_json (c : Caller) :
    IsObjectText (Utf8.encode c.json) (c.printed.map Member.ofPrinted) := by
  have hvalues : ∀ m ∈ c.printed, IsValueText (Utf8.encode m.2) := by
    intro m hm
    simp only [printed, List.mem_cons, List.not_mem_nil, or_false] at hm
    rcases hm with rfl | rfl | rfl | rfl
    · exact isValueText_string c.id
    · exact isValueText_string? c.email
    · exact isValueText_string? c.name
    · exact isValueText_string? c.role
  exact isObjectText_object hvalues

theorem valuesOf_printed (members : List (Text × Text)) (name : Text) :
    valuesOf (members.map Member.ofPrinted) name =
      (members.filter fun m => m.1 = name).map fun m => Utf8.encode m.2 := by
  unfold valuesOf
  rw [List.filter_map, List.map_map]
  simp only [Function.comp_def, Member.key?_ofPrinted, Option.some.injEq]
  rfl

theorem describes_printed (c : Caller) : Describes (c.printed.map Member.ofPrinted) c where
  keys m hm := by
    obtain ⟨p, -, rfl⟩ := List.mem_map.mp hm
    exact ⟨p.1, Member.key?_ofPrinted p⟩
  id := by
    rw [valuesOf_printed]
    exact ⟨_, rfl, isStringText_string c.id⟩
  email := by
    rw [valuesOf_printed]
    exact Or.inr ⟨_, rfl, tellsText_string? c.email⟩
  name := by
    rw [valuesOf_printed]
    exact Or.inr ⟨_, rfl, tellsText_string? c.name⟩
  role := by
    rw [valuesOf_printed]
    exact Or.inr ⟨_, rfl, tellsText_string? c.role⟩

/-- **Records of callers are read exactly.** What is printed of a caller is read
back. An object is read exactly if its members describe a caller, and then it is
read as that caller; so it must have one `id`, a string, at most one email, name
and role, each a string or null, and a text for every key. The order of the
members does not matter, nor how characters are escaped, nor what the values of
other members are. -/
theorem records_are_read_exactly :
    (∀ c : Caller, ofJson (Utf8.encode c.json) = .ok c) ∧
    ∀ s members, IsObjectText s members →
      (∀ c, ofJson s = .ok c ↔ Describes members c) ∧
      ((∃ c, ofJson s = .ok c) ↔ (∀ m ∈ members, ∃ key, m.key? = some key) ∧
        (∃ v text, valuesOf members "id".toList = [v] ∧ IsStringText v text) ∧
        ∀ name ∈ optionalKeys, valuesOf members name = [] ∨ ∃ v, valuesOf members name = [v] ∧
          (v = octets "null" ∨ ∃ text, IsStringText v text)) ∧
      ∀ s' members', IsObjectText s' members' → members.Perm members' →
        ∀ c, ofJson s = .ok c → ofJson s' = .ok c := by
  refine ⟨fun c => ?_, fun s members h => ⟨fun c => ofJson_eq_ok_iff h, ?_, ?_⟩⟩
  · exact (ofJson_eq_ok_iff (isObjectText_json c)).mpr (describes_printed c)
  · simp only [ofJson_eq_ok_iff h]
    exact exists_describes_iff
  · intro s' members' h' hperm c hread
    exact (ofJson_eq_ok_iff h').mpr (((ofJson_eq_ok_iff h).mp hread).perm hperm)

/-- The key and the text of an id may be escaped, and something else may stand
before it. -/
theorem escaped_id_is_read :
    ofJson (octets "\x7b\"x\":[],\"\\u0069d\":\"\\ud83d\\ude00\"\x7d") =
      .ok (.ofId [Char.ofNat 0x1F600]) := by
  have hletter : hexNumber? 0x30 0x30 0x36 0x39 = some 0x69 := by decide
  have hleading : hexNumber? 0x64 0x38 0x33 0x64 = some 0xD83D := by decide
  have htrailing : hexNumber? 0x64 0x65 0x30 0x30 = some 0xDE00 := by decide
  have hid := Inside.cons (.number (hexNumber?_eq_some_iff.mp hletter))
    (inside_printed "d".toList)
  have hface := Inside.cons (.number (hexNumber?_eq_some_iff.mp hleading))
    (.cons (.number (hexNumber?_eq_some_iff.mp htrailing)) .nil)
  let other : Member := .ofPrinted ("x".toList, "[]".toList)
  let face : Member := ⟨[0x69, 0x64], octets "\"\\ud83d\\ude00\""⟩
  have hobject := isObjectText_of_plain
    (.items (.next (isWritten_of_plain (m := other) (inside_printed "x".toList))
      (.last (isWritten_of_plain (m := face) hid)))) fun m hm => by
        simp only [List.mem_cons, List.not_mem_nil, or_false] at hm
        rcases hm with rfl | rfl
        · exact .list (.blank isBlank_nil) nofun
        · exact .string hface
  obtain ⟨-, hall⟩ := records_are_read_exactly
  obtain ⟨hread, -⟩ := hall _ _ hobject
  refine (hread _).mpr ⟨fun m hm => ?_, ⟨_, rfl, _, _, rfl, hface, by decide⟩,
    Or.inl ⟨rfl, rfl⟩, Or.inl ⟨rfl, rfl⟩, Or.inl ⟨rfl, rfl⟩⟩
  simp only [List.mem_cons, List.not_mem_nil, or_false] at hm
  rcases hm with rfl | rfl
  · exact ⟨_, ofPoints?_map _⟩
  · exact ⟨_, ofPoints?_map "id".toList⟩

/-- A key that is half a pair of surrogates makes the object unreadable, although
it is no key that anybody asks for. -/
theorem lone_surrogate_in_key_is_refused :
    let s := octets "\x7b\"id\":\"u1\",\"\\ud800\":1\x7d"
    ∃ members, IsObjectText s members ∧
      (∃ v, valuesOf members "id".toList = [v] ∧ IsStringText v "u1".toList) ∧
      (∀ name ∈ optionalKeys, valuesOf members name = []) ∧ ∀ c, ofJson s ≠ .ok c := by
  intro s
  have hleading : hexNumber? 0x64 0x38 0x30 0x30 = some 0xD800 := by decide
  have hkey := Inside.cons (.number (hexNumber?_eq_some_iff.mp hleading)) .nil
  let id : Member := .ofPrinted ("id".toList, Json.string "u1".toList)
  let half : Member := ⟨[0xD800], octets "1"⟩
  have hwhole : IsWhole [0x31] := .digits (by decide) (by decide) nofun
  have hnumber : IsNumberText half.value := .mk (Or.inl rfl) hwhole .none .none
  have hobject : IsObjectText s [id, half] := isObjectText_of_plain
    (.items (.next (isWritten_of_plain (m := id) (inside_printed "id".toList))
      (.last (isWritten_of_plain (m := half) hkey)))) fun m hm => by
        simp only [List.mem_cons, List.not_mem_nil, or_false] at hm
        rcases hm with rfl | rfl
        · exact isValueText_string _
        · exact .number hnumber
  refine ⟨_, hobject, ⟨_, rfl, isStringText_string _⟩, by decide, fun c hread => ?_⟩
  obtain ⟨key, hkey⟩ := ((ofJson_eq_ok_iff hobject).mp hread).keys half (by simp)
  cases hkey

end JobsGateway.Caller
