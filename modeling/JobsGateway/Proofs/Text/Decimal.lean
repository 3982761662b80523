import JobsGateway.Text.Decimal
import Mathlib.Algebra.Group.Nat.Defs

/-!
# Numbers read back from their digits

In bases up to sixteen, the digits that a number is written with are read as
that number. They hold nothing but digits of the base, and start with a zero
only for zero itself.
-/

namespace JobsGateway.Text

variable {base : Nat}

theorem digitIn?_digitChar {d : Nat} (hd : d < base) (hbase : base ≤ 16) :
    digitIn? base (Nat.digitChar d) = some d := by
  have hall : ∀ k : Fin 16, digitValue? (Nat.digitChar k) = some k.val := by decide
  rw [digitIn?, hall ⟨d, by omega⟩]
  simp [hd]

theorem naturalFrom?_append (value : Nat) (s t : Text) :
    naturalFrom? base value (s ++ t) =
      (naturalFrom? base value s).bind fun v => naturalFrom? base v t := by
  induction s generalizing value with
  | nil => rfl
  | cons c s ih =>
      simp only [List.cons_append, naturalFrom?]
      cases digitIn? base c with
      | none => rfl
      | some d => exact ih _

theorem naturalFrom?_toDigits (hone : 1 < base) (hbase : base ≤ 16) (n : Nat) :
    naturalFrom? base 0 (Nat.toDigits base n) = some n := by
  induction n using Nat.strongRecOn with
  | ind n ih =>
      by_cases hn : n < base
      · rw [Nat.toDigits_of_lt_base hn]
        simp [naturalFrom?, digitIn?_digitChar hn hbase]
      · have hle : base ≤ n := Nat.le_of_not_lt hn
        rw [Nat.toDigits_of_base_le hone hle, naturalFrom?_append,
          ih (n / base) (Nat.div_lt_self (by omega) hone)]
        simp [naturalFrom?, digitIn?_digitChar (Nat.mod_lt n (by omega)) hbase,
          Nat.div_add_mod']

theorem natural?_toDigits (hone : 1 < base) (hbase : base ≤ 16) (n : Nat) :
    natural? base (Nat.toDigits base n) = some n := by
  obtain ⟨c, rest, h⟩ := List.exists_cons_of_ne_nil (Nat.toDigits_ne_nil (n := n) (b := base))
  rw [h, natural?, ← h, naturalFrom?_toDigits hone hbase]

/-- A number is read back from its decimal digits. -/
theorem natural?_digits (n : Nat) : natural? 10 (digits n) = some n :=
  natural?_toDigits (by omega) (by omega) n

/-- A number is read back from its hexadecimal digits. -/
theorem natural?_hexDigits (n : Nat) : natural? 16 (hexDigits n) = some n :=
  natural?_toDigits (by omega) (by omega) n

theorem exists_digit_of_mem_toDigits (hone : 1 < base) {n : Nat} {c : Char}
    (h : c ∈ Nat.toDigits base n) : ∃ d < base, c = Nat.digitChar d := by
  induction n using Nat.strongRecOn with
  | ind n ih =>
      by_cases hn : n < base
      · rw [Nat.toDigits_of_lt_base hn] at h
        exact ⟨n, hn, List.mem_singleton.mp h⟩
      · rw [Nat.toDigits_of_base_le hone (Nat.le_of_not_lt hn)] at h
        rcases List.mem_append.mp h with h | h
        · exact ih _ (Nat.div_lt_self (by omega) hone) h
        · exact ⟨n % base, Nat.mod_lt n (by omega), List.mem_singleton.mp h⟩

theorem isDigit_of_mem_digits {n : Nat} {c : Char} (h : c ∈ digits n) : c.isDigit = true :=
  Nat.isDigit_of_mem_toDigits (by omega) (by omega) h

theorem digits_ne_nil (n : Nat) : digits n ≠ [] :=
  Nat.toDigits_ne_nil

theorem hexDigits_ne_nil (n : Nat) : hexDigits n ≠ [] :=
  Nat.toDigits_ne_nil

theorem mem_of_mem_hexDigits {n : Nat} {c : Char} (h : c ∈ hexDigits n) :
    c ∈ "0123456789abcdef".toList := by
  obtain ⟨d, hd, rfl⟩ := exists_digit_of_mem_toDigits (by omega) h
  have hall : ∀ k : Fin 16, Nat.digitChar k ∈ "0123456789abcdef".toList := by decide
  exact hall ⟨d, hd⟩

/-- Only zero starts with the digit zero. -/
theorem head?_digits_ne_zero {n : Nat} (hn : n ≠ 0) : (digits n).head? ≠ some '0' := by
  induction n using Nat.strongRecOn with
  | ind n ih =>
      by_cases hlt : n < 10
      · rw [digits, Nat.toDigits_of_lt_base hlt]
        simpa using hn
      · have hle : 10 ≤ n := Nat.le_of_not_lt hlt
        have hfront := ih (n / 10) (by omega) (by omega)
        obtain ⟨c, rest, h⟩ := List.exists_cons_of_ne_nil (digits_ne_nil (n / 10))
        rw [digits, Nat.toDigits_of_base_le (by omega) hle, ← digits, h]
        rwa [h] at hfront

/-- What is read as a number holds nothing but digits. -/
theorem digitIn?_ne_none_of_mem {text : Text} {value n : Nat}
    (h : naturalFrom? base value text = some n) {c : Char} (hc : c ∈ text) :
    digitIn? base c ≠ none := by
  induction text generalizing value with
  | nil => cases hc
  | cons first text ih =>
      obtain ⟨d, hd, h⟩ := Option.bind_eq_some_iff.mp h
      cases hc with
      | head =>
          rw [hd]
          exact Option.some_ne_none d
      | tail _ hc => exact ih h hc

/-! ## How large a number can be -/

theorem lt_of_digitIn? {c : Char} {d : Nat} (h : digitIn? base c = some d) : d < base := by
  obtain ⟨-, hlt⟩ := Option.filter_eq_some_iff.mp h
  simpa using hlt

/-- Each digit leaves the number below the next value of what is read so far. -/
theorem lt_of_naturalFrom? {value : Nat} {text : Text} {n : Nat}
    (h : naturalFrom? base value text = some n) : n < (value + 1) * base ^ text.length := by
  induction text generalizing value with
  | nil =>
      cases h
      simp
  | cons c text ih =>
      obtain ⟨d, hd, h⟩ := Option.bind_eq_some_iff.mp h
      have hlt := lt_of_digitIn? hd
      calc n < (value * base + d + 1) * base ^ text.length := ih h
        _ ≤ ((value + 1) * base) * base ^ text.length :=
            Nat.mul_le_mul_right _ (by rw [Nat.add_mul]; omega)
        _ = (value + 1) * base ^ (c :: text).length := by
            rw [List.length_cons, Nat.pow_succ, Nat.mul_assoc, Nat.mul_comm base]

/-- Further digits do not make a number smaller. -/
theorem le_of_naturalFrom? (hbase : 0 < base) {value : Nat} {text : Text} {n : Nat}
    (h : naturalFrom? base value text = some n) : value ≤ n := by
  induction text generalizing value with
  | nil =>
      cases h
      exact Nat.le_refl _
  | cons c text ih =>
      obtain ⟨d, -, h⟩ := Option.bind_eq_some_iff.mp h
      calc value ≤ value * base := Nat.le_mul_of_pos_right value hbase
        _ ≤ value * base + d := Nat.le_add_right ..
        _ ≤ n := ih h

theorem lt_of_natural? {text : Text} {n : Nat} (h : natural? base text = some n) :
    n < base ^ text.length := by
  cases text with
  | nil => cases h
  | cons c text => simpa using lt_of_naturalFrom? h

end JobsGateway.Text
