import JobsGateway.Proofs.Text.Decimal
import JobsGateway.Proofs.Text.Split
import JobsGateway.Url.Ipv6

/-!
# IPv6 addresses read back

Eight pieces of 16 bits are read back from their text. The groups hold no colon
and are not empty, so the first two colons in a row are those that stand for the
zero pieces left out.
-/

namespace JobsGateway.Ipv6

/-- Eight pieces of 16 bits. -/
structure IsAddress (pieces : List Nat) : Prop where
  length : pieces.length = 8
  bits : ∀ p ∈ pieces, p < 65536

/-! ## Groups -/

theorem colon_notMem_hexDigits (n : Nat) : ':' ∉ Text.hexDigits n :=
  fun h => absurd (Text.mem_of_mem_hexDigits h) (by decide)

theorem dot_notMem_hexDigits (n : Nat) : '.' ∉ Text.hexDigits n :=
  fun h => absurd (Text.mem_of_mem_hexDigits h) (by decide)

theorem readPiece?_hexDigits {n : Nat} (h : n < 65536) :
    readPiece? (Text.hexDigits n) = some n := by
  have hlength : (Text.hexDigits n).length ≤ 4 :=
    (Nat.length_toDigits_le_iff (by omega) (by omega)).mpr h
  rw [readPiece?, if_pos hlength, Text.natural?_hexDigits]

theorem readGroups?_map_hexDigits (quad : Bool) {pieces : List Nat}
    (h : ∀ p ∈ pieces, p < 65536) :
    readGroups? quad (pieces.map Text.hexDigits) = some pieces := by
  induction pieces with
  | nil => rfl
  | cons p pieces ih =>
      have hp := readPiece?_hexDigits (h p (by simp))
      have hrest := ih fun q hq => h q (List.mem_cons_of_mem p hq)
      cases pieces with
      | nil =>
          have hdot : (Text.hexDigits p).contains '.' = false := by
            rw [← Bool.not_eq_true, List.contains_iff_mem]
            exact dot_notMem_hexDigits p
          simp only [List.map_cons, List.map_nil, readGroups?, hdot, Bool.and_false,
            Bool.false_eq_true, if_false, hp, Option.map_some]
      | cons q more =>
          simp only [List.map_cons] at hrest ⊢
          unfold readGroups?
          rw [hp, hrest]
          rfl

theorem writeGroups_cons_cons (p q : Nat) (pieces : List Nat) :
    writeGroups (p :: q :: pieces) =
      Text.hexDigits p ++ ':' :: writeGroups (q :: pieces) := by
  simp [writeGroups, List.intercalate_cons_cons]

theorem writeGroups_head (p : Nat) (pieces : List Nat) :
    ∃ c rest, writeGroups (p :: pieces) = c :: rest ∧ c ≠ ':' := by
  obtain ⟨c, rest, hp⟩ := List.exists_cons_of_ne_nil (Text.hexDigits_ne_nil p)
  have hc : c ≠ ':' := by
    rintro rfl
    exact colon_notMem_hexDigits p (hp ▸ List.mem_cons_self)
  cases pieces with
  | nil =>
      refine ⟨c, rest, ?_, hc⟩
      rw [writeGroups, List.map_singleton, List.intercalate_singleton, hp]
  | cons q more =>
      refine ⟨c, rest ++ ':' :: writeGroups (q :: more), ?_, hc⟩
      rw [writeGroups_cons_cons, hp, List.cons_append]

theorem splitOn_writeGroups {pieces : List Nat} (h : pieces ≠ []) :
    (writeGroups pieces).splitOn ':' = pieces.map Text.hexDigits := by
  refine List.splitOn_intercalate ':' (fun group hgroup => ?_) (by simpa using h)
  obtain ⟨n, -, rfl⟩ := List.mem_map.mp hgroup
  exact colon_notMem_hexDigits n

theorem readSide?_writeGroups (quad : Bool) {pieces : List Nat}
    (h : ∀ p ∈ pieces, p < 65536) :
    readSide? quad (writeGroups pieces) = some pieces := by
  cases pieces with
  | nil => rfl
  | cons p pieces =>
      obtain ⟨c, rest, htext, -⟩ := writeGroups_head p pieces
      rw [readSide?, if_neg (by simp [htext]), splitOn_writeGroups (by simp),
        readGroups?_map_hexDigits quad h]

/-! ## The two colons -/

theorem cutDoubleColon?_append {group : Text} (h : ':' ∉ group) (rest : Text) :
    cutDoubleColon? (group ++ rest) =
      (cutDoubleColon? rest).map fun cut => (group ++ cut.1, cut.2) := by
  induction group with
  | nil => simp
  | cons c group ih =>
      simp only [List.mem_cons, not_or] at h
      rw [List.cons_append, cutDoubleColon?, ih h.2]
      · cases cutDoubleColon? rest <;> rfl
      · rintro _ rfl
        exact absurd rfl h.1

theorem cutDoubleColon?_colon {c : Char} (h : c ≠ ':') (rest : Text) :
    cutDoubleColon? (':' :: c :: rest) =
      (cutDoubleColon? (c :: rest)).map fun cut => (':' :: cut.1, cut.2) := by
  rw [cutDoubleColon?]
  rintro _ - heq
  exact h (List.cons.inj heq).1

/-- Groups are passed over. -/
theorem cutDoubleColon?_writeGroups (pieces : List Nat) (rest : Text) :
    cutDoubleColon? (writeGroups pieces ++ rest) =
      (cutDoubleColon? rest).map fun cut => (writeGroups pieces ++ cut.1, cut.2) := by
  induction pieces with
  | nil => simp [writeGroups]
  | cons p pieces ih =>
      cases pieces with
      | nil =>
          rw [writeGroups, List.map_singleton, List.intercalate_singleton]
          exact cutDoubleColon?_append (colon_notMem_hexDigits p) rest
      | cons q more =>
          obtain ⟨c, tail, htext, hc⟩ := writeGroups_head q more
          rw [writeGroups_cons_cons, List.append_assoc,
            cutDoubleColon?_append (colon_notMem_hexDigits p), List.cons_append, htext,
            List.cons_append, cutDoubleColon?_colon hc, ← List.cons_append, ← htext, ih]
          cases cutDoubleColon? rest <;> simp

/-! ## The zero pieces left out -/

theorem zeroRun?_eq_some {length start : Nat} {pieces : List Nat}
    (h : zeroRun? length pieces = some start) :
    start + length < 9 ∧ (pieces.drop start).take length = List.replicate length 0 := by
  have hmem := List.mem_of_find?_eq_some h
  have hrun := List.find?_some h
  rw [List.mem_range] at hmem
  exact ⟨by omega, by simpa using hrun⟩

theorem longestZeroRun?_eq_some {pieces : List Nat} {start length : Nat}
    (h : longestZeroRun? pieces = some (start, length)) :
    2 ≤ length ∧ zeroRun? length pieces = some start := by
  obtain ⟨n, hn, hrun⟩ := List.exists_of_findSome?_eq_some h
  obtain ⟨m, hm, heq⟩ := Option.map_eq_some_iff.mp hrun
  obtain ⟨rfl, rfl⟩ := Prod.mk.inj heq
  refine ⟨?_, hm⟩
  revert hn
  simp
  omega

/-- **An address is read back from its text.** -/
theorem read?_write {pieces : List Nat} (h : IsAddress pieces) :
    read? (write pieces) = some pieces := by
  have hne : pieces ≠ [] := by
    rintro rfl
    exact absurd h.length (by simp)
  unfold write read?
  cases hrun : longestZeroRun? pieces with
  | none =>
      -- Without two colons all eight groups are there.
      have hcut : cutDoubleColon? (writeGroups pieces) = none := by
        have := cutDoubleColon?_writeGroups pieces []
        rwa [List.append_nil] at this
      simp only [hcut, splitOn_writeGroups hne, readGroups?_map_hexDigits true h.bits]
      simp [h.length]
  | some run =>
      obtain ⟨start, length⟩ := run
      obtain ⟨htwo, hzeros⟩ := longestZeroRun?_eq_some hrun
      obtain ⟨hend, hzeros⟩ := zeroRun?_eq_some hzeros
      have hcut : cutDoubleColon? (writeGroups (pieces.take start) ++
          ':' :: ':' :: writeGroups (pieces.drop (start + length))) =
            some (writeGroups (pieces.take start),
              writeGroups (pieces.drop (start + length))) := by
        rw [cutDoubleColon?_writeGroups]
        simp [cutDoubleColon?]
      have hfront : readSide? false (writeGroups (pieces.take start)) =
          some (pieces.take start) :=
        readSide?_writeGroups false fun p hp => h.bits p (List.mem_of_mem_take hp)
      have hback : readSide? true (writeGroups (pieces.drop (start + length))) =
          some (pieces.drop (start + length)) :=
        readSide?_writeGroups true fun p hp => h.bits p (List.mem_of_mem_drop hp)
      have hbefore : (pieces.take start).length = start := by
        rw [List.length_take, h.length]
        omega
      have hafter : (pieces.drop (start + length)).length = 8 - (start + length) := by
        rw [List.length_drop, h.length]
      -- As many zeros are put in as were left out.
      have hmissing : 8 - start - (8 - (start + length)) = length := by omega
      have hwhole : pieces.take start ++ List.replicate length 0 ++
          pieces.drop (start + length) = pieces := by
        rw [← hzeros, List.append_assoc, ← List.drop_drop, List.take_append_drop,
          List.take_append_drop]
      simp only [hcut, hfront, hback, Option.bind_eq_bind, Option.bind_some, hbefore, hafter,
        hmissing, hwhole]
      rw [if_pos (by omega)]
      rfl

/-- An address is written in hexadecimal digits and colons. -/
theorem mem_of_mem_write {pieces : List Nat} {c : Char} (h : c ∈ write pieces) :
    c ∈ "0123456789abcdef:".toList := by
  have hgroups {some : List Nat} (hc : c ∈ writeGroups some) :
      c ∈ "0123456789abcdef:".toList := by
    rcases Text.mem_intercalate hc with rfl | ⟨group, hgroup, hc⟩
    · decide
    · obtain ⟨n, -, rfl⟩ := List.mem_map.mp hgroup
      exact List.mem_append_left [':'] (Text.mem_of_mem_hexDigits hc)
  unfold write at h
  split at h
  · exact hgroups h
  · simp only [List.mem_append, List.mem_cons] at h
    rcases h with h | rfl | rfl | h
    · exact hgroups h
    · decide
    · decide
    · exact hgroups h

/-! ## What a host can spell -/

theorem lt_of_readPiece? {text : Text} {n : Nat} (h : readPiece? text = some n) :
    n < 65536 := by
  unfold readPiece? at h
  split at h
  · rename_i hlength
    calc n < 16 ^ text.length := Text.lt_of_natural? h
      _ ≤ 16 ^ 4 := Nat.pow_le_pow_right (by omega) hlength
  · cases h

theorem lt_of_readOctet? {text : Text} {n : Nat} (h : readOctet? text = some n) : n < 256 := by
  unfold readOctet? at h
  split at h
  · cases h
  · simpa using (Option.filter_eq_some_iff.mp h).2

theorem lt_of_readQuad? {text : Text} {pieces : List Nat} (h : readQuad? text = some pieces) :
    ∀ p ∈ pieces, p < 65536 := by
  unfold readQuad? at h
  split at h
  · obtain ⟨w, hw, h⟩ := Option.bind_eq_some_iff.mp h
    obtain ⟨x, hx, h⟩ := Option.bind_eq_some_iff.mp h
    obtain ⟨y, hy, h⟩ := Option.bind_eq_some_iff.mp h
    obtain ⟨z, hz, h⟩ := Option.bind_eq_some_iff.mp h
    have hw := lt_of_readOctet? hw
    have hx := lt_of_readOctet? hx
    have hy := lt_of_readOctet? hy
    have hz := lt_of_readOctet? hz
    cases h
    simp
    omega
  · cases h

theorem lt_of_readGroups? {quad : Bool} {groups : List Text} {pieces : List Nat}
    (h : readGroups? quad groups = some pieces) : ∀ p ∈ pieces, p < 65536 := by
  induction groups generalizing pieces with
  | nil =>
      cases h
      simp
  | cons group rest ih =>
      cases rest with
      | nil =>
          rw [readGroups?] at h
          split at h
          · exact lt_of_readQuad? h
          · obtain ⟨n, hn, rfl⟩ := Option.map_eq_some_iff.mp h
            simpa using lt_of_readPiece? hn
      | cons next more =>
          unfold readGroups? at h
          obtain ⟨n, hn, h⟩ := Option.bind_eq_some_iff.mp h
          obtain ⟨tail, htail, h⟩ := Option.bind_eq_some_iff.mp h
          cases h
          intro p hp
          rcases List.mem_cons.mp hp with rfl | hp
          · exact lt_of_readPiece? hn
          · exact ih htail p hp

theorem lt_of_readSide? {quad : Bool} {text : Text} {pieces : List Nat}
    (h : readSide? quad text = some pieces) : ∀ p ∈ pieces, p < 65536 := by
  unfold readSide? at h
  split at h
  · cases h
    simp
  · exact lt_of_readGroups? h

/-- What is read is an address. -/
theorem isAddress_of_read? {text : Text} {pieces : List Nat} (h : read? text = some pieces) :
    IsAddress pieces := by
  unfold read? at h
  split at h
  · obtain ⟨hgroups, hlength⟩ := Option.filter_eq_some_iff.mp h
    exact ⟨by simpa using hlength, lt_of_readGroups? hgroups⟩
  · obtain ⟨before, hbefore, h⟩ := Option.bind_eq_some_iff.mp h
    obtain ⟨after, hafter, h⟩ := Option.bind_eq_some_iff.mp h
    split at h
    · cases h
      constructor
      · simp
        omega
      · intro p hp
        simp only [List.mem_append, List.mem_replicate] at hp
        rcases hp with (hp | ⟨-, rfl⟩) | hp
        · exact lt_of_readSide? hbefore p hp
        · decide
        · exact lt_of_readSide? hafter p hp
    · cases h

end JobsGateway.Ipv6
