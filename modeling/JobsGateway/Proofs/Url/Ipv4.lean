import JobsGateway.Proofs.Text.Decimal
import JobsGateway.Proofs.Text.Split
import JobsGateway.Url.Ipv4

/-!
# IPv4 addresses read back

An address below 2^32 is written as its four octets, and those four numbers
compose the address again.
-/

namespace JobsGateway.Ipv4

/-! ## Octets -/

theorem readPart_digits (n : Nat) : readPart (Text.digits n) = .number n := by
  have hten : readDigits 10 (Text.digits n) = .number n := by
    rw [readDigits, Text.digits, Text.naturalFrom?_toDigits (by omega) (by omega)]
  by_cases hn : n = 0
  · subst hn
    rfl
  · have hhead := Text.head?_digits_ne_zero hn
    obtain ⟨c, rest, hdigits⟩ := List.exists_cons_of_ne_nil (Text.digits_ne_nil n)
    rw [hdigits] at hhead hten ⊢
    unfold readPart
    split
    · rename_i heq
      cases heq
    · rename_i heq
      exact absurd (congrArg List.head? heq) hhead
    · rename_i heq
      exact absurd (congrArg List.head? heq) hhead
    · rename_i heq
      exact absurd (congrArg List.head? heq) hhead
    · exact hten

/-- The octets of an address, the highest first. -/
def octetsOf (address : Nat) : List Nat :=
  [address / 16777216 % 256, address / 65536 % 256, address / 256 % 256, address % 256]

theorem write_eq (address : Nat) :
    write address = ['.'].intercalate ((octetsOf address).map Text.digits) := by
  simp [write, octetsOf, List.intercalate, List.intersperse]

theorem dot_notMem_digits (n : Nat) : '.' ∉ Text.digits n :=
  fun h => absurd (Text.isDigit_of_mem_digits h) (by decide)

theorem parts_write (address : Nat) :
    parts (write address) = (octetsOf address).map Text.digits := by
  have hsplit : (write address).splitOn '.' = (octetsOf address).map Text.digits := by
    rw [write_eq]
    refine List.splitOn_intercalate '.' (fun piece hpiece => ?_) (by simp [octetsOf])
    obtain ⟨n, -, rfl⟩ := List.mem_map.mp hpiece
    exact dot_notMem_digits n
  unfold parts
  simp only [hsplit]
  refine if_neg ?_
  simpa [octetsOf] using Text.digits_ne_nil _

theorem endsInNumber_write (address : Nat) : endsInNumber (write address) = true := by
  unfold endsInNumber
  rw [parts_write]
  simp [octetsOf, readPart_digits]

theorem readParts_map_digits (numbers : List Nat) :
    readParts (numbers.map Text.digits) = some numbers := by
  induction numbers with
  | nil => rfl
  | cons n numbers ih =>
      rw [List.map_cons, readParts, readPart_digits]
      simp [ih]

theorem compose?_octetsOf {address : Nat} (h : address < 4294967296) :
    compose? 4 (octetsOf address) = some address := by
  have h₁ : address / 16777216 % 256 < 256 := Nat.mod_lt _ (by omega)
  have h₂ : address / 65536 % 256 < 256 := Nat.mod_lt _ (by omega)
  have h₃ : address / 256 % 256 < 256 := Nat.mod_lt _ (by omega)
  have h₄ : address % 256 < Nat.pow 256 1 := Nat.mod_lt _ (by omega)
  simp only [octetsOf, compose?, if_pos h₁, if_pos h₂, if_pos h₃, if_pos h₄, Option.map_some]
  have hcubed : Nat.pow 256 (4 - 1) = 16777216 := rfl
  have hsquared : Nat.pow 256 (4 - 1 - 1) = 65536 := rfl
  have hone : Nat.pow 256 (4 - 1 - 1 - 1) = 256 := rfl
  rw [hcubed, hsquared, hone]
  exact congrArg some (by omega)

/-- **An address is read back from its text.** -/
theorem read?_write {address : Nat} (h : address < 4294967296) :
    read? (write address) = some address := by
  unfold read?
  rw [parts_write]
  simp only [List.length_map]
  rw [if_pos (by simp [octetsOf]), readParts_map_digits, Option.bind_some, compose?_octetsOf h]

/-! ## What a host can spell -/

theorem lt_of_compose? {place : Nat} {numbers : List Nat} {address : Nat}
    (h : compose? place numbers = some address) (hplace : numbers.length ≤ place) :
    address < 256 ^ place := by
  induction numbers generalizing place address with
  | nil => cases h
  | cons octet rest ih =>
      cases rest with
      | nil =>
          rw [compose?] at h
          split at h
          · rename_i hlt
            rw [← Option.some.inj h]
            exact hlt
          · cases h
      | cons next more =>
          obtain ⟨below, rfl⟩ : ∃ below, place = below + 1 :=
            ⟨place - 1, by simp at hplace; omega⟩
          unfold compose? at h
          split at h
          · rename_i hoctet
            obtain ⟨tail, htail, rfl⟩ := Option.map_eq_some_iff.mp h
            have hlt := ih htail (by simpa using hplace)
            have hmul : octet * 256 ^ below ≤ 255 * 256 ^ below :=
              Nat.mul_le_mul_right _ (by omega)
            show octet * 256 ^ (below + 1 - 1) + tail < 256 ^ (below + 1)
            rw [Nat.add_sub_cancel] at hlt ⊢
            rw [Nat.pow_succ]
            omega
          · cases h

theorem length_of_readParts {texts : List Text} {numbers : List Nat}
    (h : readParts texts = some numbers) : numbers.length = texts.length := by
  induction texts generalizing numbers with
  | nil =>
      cases h
      rfl
  | cons part rest ih =>
      rw [readParts] at h
      split at h
      · obtain ⟨more, hmore, rfl⟩ := Option.map_eq_some_iff.mp h
        simp [ih hmore]
      · cases h

/-- What is read is an address of 32 bits. -/
theorem lt_of_read? {host : Text} {address : Nat} (h : read? host = some address) :
    address < 4294967296 := by
  unfold read? at h
  simp only at h
  split at h
  · rename_i hlength
    obtain ⟨numbers, hnumbers, hcompose⟩ := Option.bind_eq_some_iff.mp h
    exact lt_of_compose? hcompose (length_of_readParts hnumbers ▸ hlength)
  · cases h

end JobsGateway.Ipv4
