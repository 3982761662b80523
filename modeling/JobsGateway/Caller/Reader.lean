import JobsGateway.Caller.Basic
import JobsGateway.Json.Kind

/-!
# Reading the record of a caller

The record is a JSON object with a string `id`, which has to be there, and `email`, `name` and
`role`, each a string, `null` or absent. None of the four may occur twice; any other member is
passed over. A list of the values in this order is read as well; it may end after any of them.
-/

namespace JobsGateway.Caller

open Json

/-- What has been read of a record. -/
structure Draft where
  id : Option Text
  email : Option (Option Text)
  name : Option (Option Text)
  role : Option (Option Text)
  deriving Repr, DecidableEq, Inhabited

/-- A record of which nothing has been read. -/
def Draft.empty : Draft := ⟨none, none, none, none⟩

/-- The caller, unless the id is missing. -/
def Draft.finish? (d : Draft) : Option Caller :=
  d.id.map fun id => ⟨id, d.email.join, d.name.join, d.role.join⟩

/-- The fault of a record that is given up at `s`. It stands behind the closing bracket, if that
comes next. -/
def giveUp (problem : Problem) (closing : UInt8) (s : Bytes) : Fault :=
  match skipSpace s with
  | b :: rest => .here problem (if b = closing then rest else b :: rest)
  | [] => .here problem []

/-- Passes over the colon between a key and its value. -/
def readColon (s : Bytes) : Except Fault Bytes :=
  match skipSpace s with
  | [] => .error (.next .endInObject [])
  | b :: rest => if b = 0x3A then .ok rest else .error (.next .expectedColon (b :: rest))

/-- Reads the value of an optional field that has not been read before. -/
def readOptional (field : String) (before : Option (Option Text)) (s : Bytes) :
    Except Fault (Option Text × Bytes) :=
  if before.isSome then .error (giveUp (.duplicateField field) 0x7D s)
  else (readColon s).bind readString?

/-- Reads the value of a member, from behind its key. -/
def readMember (d : Draft) (key : Text) (s : Bytes) : Except Fault (Draft × Bytes) :=
  if key = "id".toList then
    if d.id.isSome then .error (giveUp (.duplicateField "id") 0x7D s)
    else ((readColon s).bind readString).map fun p => ({ d with id := some p.1 }, p.2)
  else if key = "email".toList then
    (readOptional "email" d.email s).map fun p => ({ d with email := some p.1 }, p.2)
  else if key = "name".toList then
    (readOptional "name" d.name s).map fun p => ({ d with name := some p.1 }, p.2)
  else if key = "role".toList then
    (readOptional "role" d.role s).map fun p => ({ d with role := some p.1 }, p.2)
  else ((readColon s).bind skipValue).map (d, ·)

theorem readColon_length {s rest : Bytes} (h : readColon s = .ok rest) :
    rest.length < s.length := by
  unfold readColon at h
  have hs := skipSpace_length s
  split at h
  · simp at h
  · rename_i b tail hb
    simp only [hb, List.length_cons] at hs
    split at h
    · simp only [Except.ok.injEq] at h
      simp only [← h]
      omega
    · simp at h

/-- Reading after the colon leaves no more than was there. -/
theorem bind_readColon_length {α : Type} {read : Bytes → Except Fault (α × Bytes)}
    (hr : ∀ {s a r}, read s = .ok (a, r) → r.length ≤ s.length) {s rest : Bytes} {a : α}
    (h : (readColon s).bind read = .ok (a, rest)) : rest.length ≤ s.length := by
  cases hc : readColon s with
  | error e => simp [hc, Except.bind] at h
  | ok r =>
    simp only [hc, Except.bind] at h
    exact Nat.le_trans (hr h) (Nat.le_of_lt (readColon_length hc))

theorem readOptional_length {field : String} {before : Option (Option Text)} {s rest : Bytes}
    {text : Option Text} (h : readOptional field before s = .ok (text, rest)) :
    rest.length ≤ s.length := by
  unfold readOptional at h
  split at h
  · simp at h
  · exact bind_readColon_length (fun hx => Nat.le_of_lt (readString?_length hx)) h

/-- What `Except.map` gives came from a result. -/
theorem map_eq_ok {ε α β : Type} {f : α → β} {x : Except ε α} {b : β} (h : x.map f = .ok b) :
    ∃ a, x = .ok a ∧ f a = b := by
  cases x with
  | error e => simp [Except.map] at h
  | ok a => exact ⟨a, rfl, by simpa [Except.map] using h⟩

theorem readMember_length {d d' : Draft} {key : Text} {s rest : Bytes}
    (h : readMember d key s = .ok (d', rest)) : rest.length ≤ s.length := by
  unfold readMember at h
  split at h
  · split at h
    · simp at h
    · obtain ⟨⟨_, _⟩, hp, he⟩ := map_eq_ok h
      simp only [Prod.mk.injEq] at he
      exact he.2 ▸ bind_readColon_length (fun hx => Nat.le_of_lt (readString_length hx)) hp
  split at h
  · obtain ⟨⟨_, _⟩, hp, he⟩ := map_eq_ok h
    simp only [Prod.mk.injEq] at he
    exact he.2 ▸ readOptional_length hp
  split at h
  · obtain ⟨⟨_, _⟩, hp, he⟩ := map_eq_ok h
    simp only [Prod.mk.injEq] at he
    exact he.2 ▸ readOptional_length hp
  split at h
  · obtain ⟨⟨_, _⟩, hp, he⟩ := map_eq_ok h
    simp only [Prod.mk.injEq] at he
    exact he.2 ▸ readOptional_length hp
  · obtain ⟨r, hr, he⟩ := map_eq_ok h
    simp only [Prod.mk.injEq] at he
    cases hc : readColon s with
    | error e => simp [hc, Except.bind] at hr
    | ok t =>
      simp only [hc, Except.bind] at hr
      exact he.2 ▸ Nat.le_trans (skipValue_length hr) (Nat.le_of_lt (readColon_length hc))

/-- Finds the opening quote of the next key. `none` stands for the end of the object, which is not
passed. -/
def nextKey (first : Bool) (s : Bytes) : Except Fault (Option Bytes) :=
  match skipSpace s with
  | [] => .error (.next .endInObject [])
  | b :: rest =>
    if b = 0x7D then .ok none
    else
      let after := if b = 0x2C && !first then skipSpace rest else b :: rest
      if b != 0x2C && !first then .error (.next .expectedObjectEnd (b :: rest))
      else match after with
        | [] => .error (.next .endInValue [])
        | c :: rest =>
          if c = 0x22 then .ok (some rest)
          else if c = 0x7D then .error (.next .trailingComma (c :: rest))
          else .error (.next .keyNotString (c :: rest))

theorem nextKey_length {first : Bool} {s rest : Bytes} (h : nextKey first s = .ok (some rest)) :
    rest.length < s.length := by
  unfold nextKey at h
  have hs := skipSpace_length s
  split at h
  · simp at h
  · rename_i b tail hb
    simp only [hb, List.length_cons] at hs
    have ht := skipSpace_length tail
    split at h
    · simp at h
    · simp only at h
      split at h
      · simp at h
      · split at h
        · simp at h
        · rename_i c r hc
          have hlen : (c :: r).length ≤ (b :: tail).length := by
            rw [← hc]
            split
            · exact Nat.le_succ_of_le ht
            · exact Nat.le_refl _
          simp only [List.length_cons] at hlen
          split at h
          · simp only [Except.ok.injEq, Option.some.injEq] at h
            simp only [← h]
            omega
          · split at h <;> simp at h

/-- Reads the members of an object up to its end. -/
def readMembers (first : Bool) (d : Draft) (s : Bytes) : Except Fault (Draft × Bytes) :=
  match _h : nextKey first s with
  | .error e => .error e
  | .ok none => .ok (d, s)
  | .ok (some rest) =>
    match _hk : readText rest with
    | .error e => .error e
    | .ok (key, rest) =>
      match _hm : readMember d key rest with
      | .error e => .error e
      | .ok (d, rest) => readMembers false d rest
termination_by s.length
decreasing_by
  have := nextKey_length _h
  have := readText_length _hk
  have := readMember_length _hm
  omega

/-- Passes over the end of an object. -/
def readObjectEnd (s : Bytes) : Except Fault Bytes :=
  match skipSpace s with
  | [] => .error (.next .endInObject [])
  | b :: rest =>
    if b = 0x7D then .ok rest
    else if b = 0x2C then .error (.next .trailingComma (b :: rest))
    else .error (.next .trailingCharacters (b :: rest))

/-- Reads a record from behind the opening brace. -/
def readObject (s : Bytes) : Except Fault (Caller × Bytes) := do
  let (d, rest) ← readMembers true .empty s
  match d.finish? with
  | none => throw (giveUp (.missingField "id") 0x7D rest)
  | some caller => pure (caller, ← readObjectEnd rest)

/-- Finds the next value of a list. `none` stands for the end of the list, which is not passed. -/
def nextItem (first : Bool) (s : Bytes) : Except Fault (Option Bytes) :=
  match skipSpace s with
  | [] => .error (.next .endInList [])
  | b :: rest =>
    if b = 0x5D then .ok none
    else if first then .ok (some (b :: rest))
    else if b = 0x2C then
      match skipSpace rest with
      | [] => .error (.next .endInValue [])
      | c :: rest =>
        if c = 0x5D then .error (.next .trailingComma (c :: rest)) else .ok (some (c :: rest))
    else .error (.next .expectedListEnd (b :: rest))

/-- Reads the id from the front of a list. -/
def readFirst (s : Bytes) : Except Fault (Text × Bytes) := do
  match ← nextItem true s with
  | none => throw (giveUp (.wrongLength 0 "struct CallerIdentity with 4 elements") 0x5D s)
  | some item => readString item

/-- Reads another value from a list. It is missing where the list ends before it. -/
def readNext (s : Bytes) : Except Fault (Option Text × Bytes) := do
  match ← nextItem false s with
  | none => pure (none, s)
  | some item => readString? item

/-- Passes over the end of a list. -/
def readListEnd (s : Bytes) : Except Fault Bytes :=
  match skipSpace s with
  | [] => .error (.next .endInList [])
  | b :: rest =>
    if b = 0x5D then .ok rest
    else if b = 0x2C then
      match skipSpace rest with
      | c :: rest =>
        if c = 0x5D then .error (.next .trailingComma (c :: rest))
        else .error (.next .trailingCharacters (c :: rest))
      | [] => .error (.next .trailingCharacters [])
    else .error (.next .trailingCharacters (b :: rest))

/-- Reads a record from behind the opening bracket of a list. -/
def readList (s : Bytes) : Except Fault (Caller × Bytes) := do
  let (id, s) ← readFirst s
  let (email, s) ← readNext s
  let (name, s) ← readNext s
  let (role, s) ← readNext s
  pure (⟨id, email, name, role⟩, ← readListEnd s)

/-- Reads a record, after blanks. -/
def readRecord (s : Bytes) : Except Fault (Caller × Bytes) :=
  match skipSpace s with
  | [] => .error (.next .endInValue [])
  | b :: rest =>
    if b = 0x5B then readList rest
    else if b = 0x7B then readObject rest
    else .error (wrongKind "struct CallerIdentity" b rest)

/-- Reads a record that is the whole of a JSON text. -/
def readWhole (s : Bytes) : Except Fault Caller := do
  let (caller, rest) ← readRecord s
  match skipSpace rest with
  | [] => pure caller
  | b :: rest => throw (.next .trailingCharacters (b :: rest))

/-- The caller that a JSON text describes. -/
def ofJson (s : Bytes) : Except Json.Error Caller :=
  (readWhole s).mapError (Fault.locate s)

end JobsGateway.Caller
