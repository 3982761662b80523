import JobsGateway.Json.Printer
import JobsGateway.Proofs.Json.Values

/-!
# What is printed is JSON

A printed string stands for the text that was printed, whatever characters are
in it, and a printed object has the members that were printed, in order.
-/

namespace JobsGateway.Json

/-! ## Strings -/

/-- The controls that have no letter are written by their numbers. -/
theorem exists_hexPair {n : Nat} (h : n < 0x20) : ∃ a b : UInt8,
    Utf8.encode (hexPair n) = [a, b] ∧ hexNumber? 0x30 0x30 a b = some n := by
  have hall : ∀ n : Fin 0x20,
      Utf8.encode (hexPair n) =
        [(Utf8.encode (hexPair n)).getD 0 0, (Utf8.encode (hexPair n)).getD 1 0] ∧
      hexNumber? 0x30 0x30 ((Utf8.encode (hexPair n)).getD 0 0)
        ((Utf8.encode (hexPair n)).getD 1 0) = some n.val := by decide
  exact ⟨_, _, hall ⟨n, h⟩⟩

/-- Every character is printed in a way that it may be written. -/
theorem inner_escapeChar (c : Char) : Inner (Utf8.encode (escapeChar c)) c.toNat := by
  unfold escapeChar
  split
  · exact .letter (c := '"') (by decide)
  · exact .letter (c := '\\') (by decide)
  · exact .letter (c := '\x08') (by decide)
  · exact .letter (c := '\x0c') (by decide)
  · exact .letter (c := '\n') (by decide)
  · exact .letter (c := '\r') (by decide)
  · exact .letter (c := '\t') (by decide)
  · rename_i hquote hslash _ _ _ _ _
    split
    · rename_i hlow
      obtain ⟨a, b, hoctets, hnumber⟩ := exists_hexPair hlow
      rw [Utf8.encode_append, hoctets]
      exact .number (hexNumber?_eq_some_iff.mp hnumber)
    · rename_i hlow
      rw [Utf8.encode_cons, Utf8.encode_nil, List.append_nil]
      exact .plain (Nat.le_of_not_lt hlow) hquote hslash

theorem inside_printed (text : Text) :
    Inside (Utf8.encode (text.flatMap escapeChar)) (text.map Char.toNat) := by
  induction text with
  | nil => exact .nil
  | cons c text ih =>
      rw [List.flatMap_cons, Utf8.encode_append]
      exact .cons (inner_escapeChar c) ih

/-- The code points of a text stand for it. -/
theorem ofPoints?_map (text : Text) : ofPoints? (text.map Char.toNat) = some text := by
  induction text with
  | nil => rfl
  | cons c text ih =>
      obtain ⟨htrailing, hleading⟩ := not_surrogate c
      rw [List.map_cons, ofPoints?.eq_def]
      simp only [htrailing, hleading, Bool.false_eq_true, if_false, ih, Char.ofNat_toNat]
      rfl

theorem encode_string (text : Text) :
    Utf8.encode (string text) = 0x22 :: (Utf8.encode (text.flatMap escapeChar) ++ [0x22]) := by
  rw [string, List.cons_append, Utf8.encode_cons, Utf8.encode_append]
  rfl

/-- **A printed string stands for the text that was printed.** -/
theorem isStringText_string (text : Text) : IsStringText (Utf8.encode (string text)) text :=
  ⟨_, _, encode_string text, inside_printed text, ofPoints?_map text⟩

theorem isValueText_string (text : Text) : IsValueText (Utf8.encode (string text)) := by
  rw [encode_string]
  exact .string (inside_printed text)

theorem isValueText_string? (text : Option Text) : IsValueText (Utf8.encode (string? text)) := by
  cases text with
  | none => exact .word (List.mem_cons_self)
  | some text => exact isValueText_string text

/-! ## Objects -/

/-- The member that is printed for a key and a value. -/
def Member.ofPrinted (m : Text × Text) : Member :=
  ⟨m.1.map Char.toNat, Utf8.encode m.2⟩

@[simp] theorem Member.key?_ofPrinted (m : Text × Text) : (ofPrinted m).key? = some m.1 :=
  ofPoints?_map m.1

/-- A member may be written without blanks. -/
theorem isWritten_of_plain {m : Member} {q : Bytes} (h : Inside q m.key) :
    m.IsWritten (0x22 :: (q ++ 0x22 :: 0x3A :: m.value)) := by
  have hpadded : Padded ([] ++ (m.value ++ [])) m.value := .mk isBlank_nil isBlank_nil
  rw [List.append_nil] at hpadded
  exact .mk isBlank_nil h isBlank_nil hpadded

theorem isWritten_member (m : Text × Text) :
    (Member.ofPrinted m).IsWritten (Utf8.encode (member m.1 m.2)) := by
  have hoctets : Utf8.encode (member m.1 m.2) =
      0x22 :: (Utf8.encode (m.1.flatMap escapeChar) ++ 0x22 :: 0x3A :: Utf8.encode m.2) := by
    rw [member, Utf8.encode_append, encode_string, Utf8.encode_cons_of_ascii (by decide)]
    simp
  rw [hoctets]
  exact isWritten_of_plain (m := .ofPrinted m) (inside_printed m.1)

theorem items_printed (m : Text × Text) (members : List (Text × Text)) :
    Items Member.IsWritten
      (Utf8.encode ([','].intercalate ((m :: members).map fun m => member m.1 m.2)))
      ((m :: members).map Member.ofPrinted) := by
  induction members generalizing m with
  | nil =>
      rw [List.map_singleton, List.intercalate_singleton]
      exact .last (isWritten_member m)
  | cons next members ih =>
      rw [List.map_cons, List.map_cons, List.intercalate_cons_cons, List.append_assoc,
        Utf8.encode_append, List.singleton_append, Utf8.encode_cons_of_ascii (by decide)]
      exact .next (isWritten_member m) (ih next)

/-- An object may be written without blanks. -/
theorem isObjectText_of_plain {body : Bytes} {members : List Member}
    (h : Row Member.IsWritten body members) (hv : ∀ m ∈ members, IsValueText m.value) :
    IsObjectText (0x7B :: (body ++ [0x7D])) members := by
  have hpadded : Padded ([] ++ (0x7B :: (body ++ [0x7D]) ++ [])) (0x7B :: (body ++ [0x7D])) :=
    .mk isBlank_nil isBlank_nil
  rw [List.append_nil] at hpadded
  exact .mk hpadded h hv

/-- **A printed object has the members that were printed.** -/
theorem isObjectText_object {members : List (Text × Text)}
    (h : ∀ m ∈ members, IsValueText (Utf8.encode m.2)) :
    IsObjectText (Utf8.encode (object members)) (members.map Member.ofPrinted) := by
  have hoctets : Utf8.encode (object members) =
      0x7B :: (Utf8.encode ([','].intercalate (members.map fun m => member m.1 m.2)) ++
        [0x7D]) := by
    rw [object, List.cons_append, Utf8.encode_cons_of_ascii (by decide), Utf8.encode_append]
    rfl
  rw [hoctets]
  refine isObjectText_of_plain ?_ fun m hm => ?_
  · cases members with
    | nil => exact .blank isBlank_nil
    | cons m members => exact .items (items_printed m members)
  · obtain ⟨printed, hprinted, rfl⟩ := List.mem_map.mp hm
    exact h printed hprinted

end JobsGateway.Json
