import JobsGateway.Proofs.Json.Grammar
import JobsGateway.Proofs.Outcome
import JobsGateway.Proofs.Text.Utf8

/-!
# Strings are read as they are meant

The reader finds the closing quote of a string and gives back the text that its
code points stand for. Where they stand for none, it refuses the string, except
where nobody asks for the text.
-/

namespace JobsGateway.Json

/-! ## Characters and surrogates -/

theorem not_surrogate (c : Char) : isTrailing c.toNat = false ∧ isLeading c.toNat = false := by
  have hvalid : c.toNat < 0xD800 ∨ 0xDFFF < c.toNat ∧ c.toNat < 0x110000 := c.valid
  simp only [isTrailing, isLeading, Bool.and_eq_false_iff, decide_eq_false_iff_not]
  omega

/-- The reader knows the letters of escapes, and an escape by number opens with
none of them. -/
theorem letter_facts {b : UInt8} {c : Char} (h : (b, c) ∈ letters) :
    letterEscape? b = some c ∧ b ≠ 0x75 := by
  have hall : letters.all (fun p => letterEscape? p.1 = some p.2 ∧ p.1 ≠ 0x75) = true := by decide
  exact of_decide_eq_true (List.all_eq_true.mp hall (b, c) h)

theorem readEscape_of_letter {b : UInt8} {c : Char} (h : (b, c) ∈ letters) (rest : Bytes) :
    readEscape (b :: rest) = .ok (c, rest) := by
  rw [readEscape, if_neg (letter_facts h).2, (letter_facts h).1]

theorem skipEscape_of_letter {b : UInt8} {c : Char} (h : (b, c) ∈ letters) (rest : Bytes) :
    skipEscape (b :: rest) = .ok rest := by
  rw [skipEscape, if_neg (letter_facts h).2, (letter_facts h).1, if_pos (by rfl)]

/-- The reader counts hexadecimal digits by their places. -/
theorem hexDigit?_eq_some_iff {b : UInt8} {x : Nat} :
    hexDigit? b = some x ↔ IsHexDigit b x := by
  constructor
  · intro h
    have hall : ∀ n < 256, (hexDigit? (UInt8.ofNat n)).all
        (fun x => IsHexDigit (UInt8.ofNat n) x) = true := by decide +kernel
    have hb := hall b.toNat b.toNat_lt
    rw [UInt8.ofNat_toNat, h] at hb
    exact of_decide_eq_true hb
  · have hall : ∀ x < 16, (octets "0123456789abcdef")[x]?.all (hexDigit? · = some x) = true ∧
        (octets "0123456789ABCDEF")[x]?.all (hexDigit? · = some x) = true := by decide +kernel
    rintro (h | h)
    · have hplace := (hall x (List.getElem?_eq_some_iff.mp h).1).1
      rw [h] at hplace
      exact of_decide_eq_true hplace
    · have hplace := (hall x (List.getElem?_eq_some_iff.mp h).1).2
      rw [h] at hplace
      exact of_decide_eq_true hplace

theorem hexNumber?_eq_some_iff {a b c d : UInt8} {n : Nat} :
    hexNumber? a b c d = some n ↔ IsHexNumber a b c d n := by
  constructor
  · intro h
    obtain ⟨x, hx, h⟩ := Option.bind_eq_some_iff.mp h
    obtain ⟨y, hy, h⟩ := Option.bind_eq_some_iff.mp h
    obtain ⟨z, hz, h⟩ := Option.bind_eq_some_iff.mp h
    obtain ⟨w, hw, h⟩ := Option.bind_eq_some_iff.mp h
    have hn : n = ((x * 16 + y) * 16 + z) * 16 + w := by
      have hsum : (x * 16 + y) * 256 + z * 16 + w = n := Option.some.inj h
      omega
    rw [hn]
    exact .mk (hexDigit?_eq_some_iff.mp hx) (hexDigit?_eq_some_iff.mp hy)
      (hexDigit?_eq_some_iff.mp hz) (hexDigit?_eq_some_iff.mp hw)
  · rintro ⟨hx, hy, hz, hw⟩
    rename_i x y z w
    simp only [hexNumber?, hexDigit?_eq_some_iff.mpr hx, hexDigit?_eq_some_iff.mpr hy,
      hexDigit?_eq_some_iff.mpr hz, hexDigit?_eq_some_iff.mpr hw]
    exact congrArg some (by omega)

theorem readHex_of_number {a b c d : UInt8} {n : Nat} (h : IsHexNumber a b c d n)
    (rest : Bytes) : readHex (a :: b :: c :: d :: rest) = .ok (n, rest) := by
  rw [readHex, hexNumber?_eq_some_iff.mpr h]

/-- The octets of a character that stands for itself neither end a string nor
open an escape. -/
theorem octets_of_plain {c : Char} (hlow : 0x20 ≤ c.toNat) (hquote : c ≠ '"') (hslash : c ≠ '\\')
    {b : UInt8} (hb : b ∈ String.utf8EncodeChar c) : b ≠ 0x22 ∧ b ≠ 0x5C ∧ ¬ b < 0x20 := by
  rw [UInt8.lt_iff_toNat_lt]
  by_cases hascii : c.toNat < 0x80
  · rw [Utf8.utf8EncodeChar_of_ascii hascii, List.mem_singleton] at hb
    have hnat : b.toNat = c.toNat := hb ▸ Utf8.toNat_octet hascii
    refine ⟨?_, ?_, ?_⟩
    · rintro rfl
      exact hquote (Char.toNat_inj.mp hnat.symm)
    · rintro rfl
      exact hslash (Char.toNat_inj.mp hnat.symm)
    · rw [hnat]
      exact Nat.not_lt.mpr hlow
  · have hhigh := Utf8.octets_of_not_ascii (Nat.le_of_not_lt hascii) hb
    refine ⟨?_, ?_, ?_⟩
    · rintro rfl
      exact absurd hhigh (by decide)
    · rintro rfl
      exact absurd hhigh (by decide)
    · exact Nat.not_lt.mpr (Nat.le_trans (by decide) hhigh)

/-- The first octet of a character that stands for itself. -/
theorem exists_octet_of_plain {c : Char} (hlow : 0x20 ≤ c.toNat) (hquote : c ≠ '"')
    (hslash : c ≠ '\\') : ∃ b more, String.utf8EncodeChar c = b :: more ∧ b ≠ 0x5C := by
  obtain ⟨b, more, hoctets⟩ := List.exists_cons_of_ne_nil (String.utf8EncodeChar_ne_nil (c := c))
  obtain ⟨-, hb, -⟩ := octets_of_plain hlow hquote hslash (hoctets ▸ List.mem_cons_self)
  exact ⟨b, more, hoctets, hb⟩

/-! ## Reading the inside -/

/-- Octets of characters that stand for themselves are copied. -/
theorem readOctets_append {p : Bytes} (h : ∀ b ∈ p, b ≠ 0x22 ∧ b ≠ 0x5C ∧ ¬ b < 0x20)
    (s : Bytes) : readOctets (p ++ s) = (readOctets s).map fun r => (p ++ r.1, r.2) := by
  induction p with
  | nil => cases hs : readOctets s <;> simp [hs, Except.map]
  | cons b p ih =>
      obtain ⟨hquote, hslash, hlow⟩ := h b List.mem_cons_self
      rw [List.cons_append, readOctets, if_neg hquote, if_neg hslash, if_neg hlow,
        ih fun d hd => h d (List.mem_cons_of_mem b hd)]
      cases readOctets s <;> rfl

theorem readOctets_of_escape {s rest : Bytes} {c : Char} (h : readEscape s = .ok (c, rest)) :
    readOctets (0x5C :: s) =
      (readOctets rest).map fun r => (String.utf8EncodeChar c ++ r.1, r.2) := by
  rw [readOctets, if_neg (by decide), if_pos rfl]
  split
  · rename_i e he
    rw [h] at he
    cases he
  · rename_i c' rest' he
    rw [h] at he
    cases he
    cases readOctets rest <;> rfl

theorem readOctets_of_escape_error {s : Bytes} {e : Fault} (h : readEscape s = .error e) :
    readOctets (0x5C :: s) = .error e := by
  rw [readOctets, if_neg (by decide), if_pos rfl]
  split
  · rename_i e' he
    rw [h] at he
    cases he
    rfl
  · rename_i he
    rw [h] at he
    cases he

/-- A code point that is no surrogate is read as a character. -/
theorem Inner.readOctets_append {s : Bytes} {n : Nat} (h : Inner s n)
    (htrailing : isTrailing n = false) (hleading : isLeading n = false) (rest : Bytes) :
    readOctets (s ++ rest) =
      (readOctets rest).map fun r => (String.utf8EncodeChar (Char.ofNat n) ++ r.1, r.2) := by
  cases h with
  | plain hlow hquote hslash =>
      rw [Char.ofNat_toNat]
      exact Json.readOctets_append (fun b hb => octets_of_plain hlow hquote hslash hb) rest
  | letter hletter =>
      rw [Char.ofNat_toNat]
      exact readOctets_of_escape (readEscape_of_letter hletter rest)
  | @number a b c d n hnumber =>
      refine readOctets_of_escape (s := 0x75 :: a :: b :: c :: d :: rest) ?_
      simp [readEscape, readUnicode, readHex_of_number hnumber, htrailing, hleading]

/-- Only an escape by number writes a surrogate. -/
theorem Inner.of_surrogate {s : Bytes} {n : Nat} (h : Inner s n)
    (hn : isTrailing n = true ∨ isLeading n = true) :
    ∃ a b c d, s = [0x5C, 0x75, a, b, c, d] ∧ IsHexNumber a b c d n := by
  cases h with
  | plain _ _ _ =>
      rename_i c _ _ _
      simp [not_surrogate c] at hn
  | letter _ =>
      rename_i b c _
      simp [not_surrogate c] at hn
  | number hnumber => exact ⟨_, _, _, _, rfl, hnumber⟩

theorem readTrailing_of_ne {b : UInt8} (h : b ≠ 0x5C) (n : Nat) (rest : Bytes) :
    readTrailing n (b :: rest) = .error (.here .unfinishedSurrogates rest) := by
  unfold readTrailing
  split
  · simp_all
  · simp_all
  · simp_all
  · simp_all
  · simp_all

/-- The second half of a pair has to be one. -/
theorem Inner.readTrailing_append {s : Bytes} {m : Nat} (h : Inner s m) (n : Nat)
    (rest : Bytes) : (readTrailing n (s ++ rest)).toOption =
      if isTrailing m then some (ofSurrogates n m, rest) else none := by
  cases h with
  | @plain c hlow hquote hslash =>
      obtain ⟨b, more, hoctets, hb⟩ := exists_octet_of_plain hlow hquote hslash
      rw [(not_surrogate c).1, hoctets, List.cons_append, readTrailing_of_ne hb]
      rfl
  | @letter b c hletter =>
      rw [(not_surrogate c).1, List.cons_append, List.singleton_append, readTrailing]
      · rfl
      · exact (letter_facts hletter).2
  | @number a b c d m hnumber =>
      show (readTrailing n (0x5C :: 0x75 :: a :: b :: c :: d :: rest)).toOption = _
      rw [readTrailing, readHex_of_number hnumber]
      show (if isTrailing m = true then _ else _ : Except Fault (Char × Bytes)).toOption = _
      cases isTrailing m <;> rfl

/-- A surrogate that closes a pair cannot come first. -/
theorem Inner.readOctets_trailing {s : Bytes} {n : Nat} (h : Inner s n)
    (hn : isTrailing n = true) (rest : Bytes) : (readOctets (s ++ rest)).toOption = none := by
  obtain ⟨a, b, c, d, rfl, hnumber⟩ := h.of_surrogate (Or.inl hn)
  have hescape : readEscape (0x75 :: a :: b :: c :: d :: rest) =
      .error (.here .loneSurrogate rest) := by
    rw [readEscape, if_pos rfl, readUnicode, readHex_of_number hnumber]
    exact if_pos hn
  show (readOctets (0x5C :: 0x75 :: a :: b :: c :: d :: rest)).toOption = none
  rw [readOctets_of_escape_error hescape]
  rfl

/-- A surrogate that opens a pair is read together with the one that closes it. -/
theorem Inner.readOctets_leading {s : Bytes} {n : Nat} (h : Inner s n)
    (hn : isLeading n = true) (htrailing : isTrailing n = false) (rest : Bytes) :
    (readOctets (s ++ rest)).toOption = (readTrailing n rest).toOption.bind fun p =>
      (readOctets p.2).toOption.map fun r => (String.utf8EncodeChar p.1 ++ r.1, r.2) := by
  obtain ⟨a, b, c, d, rfl, hnumber⟩ := h.of_surrogate (Or.inr hn)
  have hescape : readEscape (0x75 :: a :: b :: c :: d :: rest) = readTrailing n rest := by
    rw [readEscape, if_pos rfl, readUnicode, readHex_of_number hnumber]
    simp only [hn, htrailing, Bool.false_eq_true, if_false, if_true]
  show (readOctets (0x5C :: 0x75 :: a :: b :: c :: d :: rest)).toOption = _
  cases hread : readTrailing n rest with
  | error e =>
      rw [readOctets_of_escape_error (hescape.trans hread)]
      rfl
  | ok p =>
      rw [readOctets_of_escape (hescape.trans hread), Outcome.toOption_map]
      rfl

/-- **What is read of a string.** It is the text that the code points stand for,
up to the closing quote, and an error if they stand for none. -/
theorem toOption_readOctets {s : Bytes} {points : List Nat} (h : Inside s points)
    (rest : Bytes) : (readOctets (s ++ 0x22 :: rest)).toOption =
      (ofPoints? points).map fun text => (Utf8.encode text, rest) := by
  fun_induction ofPoints? points generalizing s with
  | case1 =>
      cases h
      rw [List.nil_append, readOctets, if_pos rfl]
      rfl
  | case2 n points htrailing =>
      cases h with
      | cons hinner hrest =>
          rw [List.append_assoc]
          exact hinner.readOctets_trailing htrailing _
  | case3 n htrailing hleading =>
      cases h with
      | cons hinner hrest =>
          cases hrest
          rw [List.append_nil, hinner.readOctets_leading hleading (by simpa using htrailing),
            readTrailing_of_ne (by decide)]
          rfl
  | case4 n htrailing hleading m points hpair ih =>
      cases h with
      | cons hinner hrest =>
          cases hrest with
          | cons hsecond hrest =>
              rw [List.append_assoc, List.append_assoc,
                hinner.readOctets_leading hleading (by simpa using htrailing),
                hsecond.readTrailing_append, if_pos hpair, Option.bind_some, ih hrest]
              simp [Function.comp_def]
  | case5 n htrailing hleading m points hpair =>
      cases h with
      | cons hinner hrest =>
          cases hrest with
          | cons hsecond hrest =>
              rw [List.append_assoc, List.append_assoc,
                hinner.readOctets_leading hleading (by simpa using htrailing),
                hsecond.readTrailing_append, if_neg hpair]
              rfl
  | case6 n points htrailing hleading ih =>
      cases h with
      | cons hinner hrest =>
          rw [List.append_assoc, hinner.readOctets_append (by simpa using htrailing)
            (by simpa using hleading), Outcome.toOption_map, ih hrest]
          simp [Function.comp_def]

theorem toOption_readText {s : Bytes} {points : List Nat} (h : Inside s points) (rest : Bytes) :
    (readText (s ++ 0x22 :: rest)).toOption = (ofPoints? points).map (·, rest) := by
  have hoctets := toOption_readOctets h rest
  unfold readText
  cases hread : readOctets (s ++ 0x22 :: rest) with
  | error e =>
      rw [hread] at hoctets
      cases hpoints : ofPoints? points with
      | none => rfl
      | some text =>
          rw [hpoints] at hoctets
          cases hoctets
  | ok p =>
      rw [hread] at hoctets
      obtain ⟨text, hpoints, rfl⟩ := Option.map_eq_some_iff.mp hoctets.symm
      simp only [Utf8.decode?_encode, hpoints]
      rfl

/-- A string is read exactly if it stands for a text. -/
theorem readText_eq_ok_iff {s : Bytes} {points : List Nat} (h : Inside s points)
    {rest after : Bytes} {text : Text} :
    readText (s ++ 0x22 :: rest) = .ok (text, after) ↔
      ofPoints? points = some text ∧ after = rest := by
  rw [← Outcome.toOption_eq_some_iff, toOption_readText h, Option.map_eq_some_iff]
  constructor
  · rintro ⟨text', hpoints, heq⟩
    cases heq
    exact ⟨hpoints, rfl⟩
  · rintro ⟨hpoints, rfl⟩
    exact ⟨text, hpoints, rfl⟩

/-! ## Passing over the inside -/

theorem skipText_append {p : Bytes} (h : ∀ b ∈ p, b ≠ 0x22 ∧ b ≠ 0x5C ∧ ¬ b < 0x20) (s : Bytes) :
    skipText (p ++ s) = skipText s := by
  induction p with
  | nil => rfl
  | cons b p ih =>
      obtain ⟨hquote, hslash, hlow⟩ := h b List.mem_cons_self
      rw [List.cons_append, skipText, if_neg hquote, if_neg hslash, if_neg hlow,
        ih fun d hd => h d (List.mem_cons_of_mem b hd)]

theorem skipText_of_escape {s rest : Bytes} (h : skipEscape s = .ok rest) :
    skipText (0x5C :: s) = skipText rest := by
  rw [skipText, if_neg (by decide), if_pos rfl]
  split
  · rename_i e he
    rw [h] at he
    cases he
  · rename_i rest' he
    rw [h] at he
    cases he
    rfl

theorem Inner.skipText_append {s : Bytes} {n : Nat} (h : Inner s n) (rest : Bytes) :
    skipText (s ++ rest) = skipText rest := by
  cases h with
  | plain hlow hquote hslash =>
      exact Json.skipText_append (fun b hb => octets_of_plain hlow hquote hslash hb) rest
  | letter hletter => exact skipText_of_escape (skipEscape_of_letter hletter rest)
  | @number a b c d n hnumber =>
      refine skipText_of_escape (s := 0x75 :: a :: b :: c :: d :: rest) ?_
      rw [skipEscape, if_pos rfl, readHex_of_number hnumber]
      rfl

/-- A string is passed over up to its closing quote, whatever it stands for. -/
theorem skipText_inside {s : Bytes} {points : List Nat} (h : Inside s points) (rest : Bytes) :
    skipText (s ++ 0x22 :: rest) = .ok rest := by
  induction h with
  | nil => rw [List.nil_append, skipText, if_pos rfl]
  | cons hinner _ ih => rw [List.append_assoc, hinner.skipText_append, ih]

/-! ## One way to read a string -/

theorem utf8EncodeChar_append_inj {c c' : Char} {rest rest' : Bytes}
    (h : String.utf8EncodeChar c ++ rest = String.utf8EncodeChar c' ++ rest') : c = c' := by
  have hread := congrArg (fun s : Bytes => s.toByteArray.utf8DecodeChar? 0) h
  simp only [List.toByteArray_append, ByteArray.utf8DecodeChar?_utf8EncodeChar_append,
    Option.some.injEq] at hread
  exact hread

theorem Inner.ne_nil {s : Bytes} {n : Nat} (h : Inner s n) : s ≠ [] := by
  cases h with
  | plain _ _ _ => exact String.utf8EncodeChar_ne_nil
  | letter _ => exact List.cons_ne_nil _ _
  | number _ => exact List.cons_ne_nil _ _

/-- The octets tell where the first code point ends, and which it is. -/
theorem Inner.unique {s s' rest rest' : Bytes} {n n' : Nat} (h : Inner s n) (h' : Inner s' n')
    (heq : s ++ rest = s' ++ rest') : s = s' ∧ n = n' := by
  cases h with
  | @plain c hlow hquote hslash =>
      obtain ⟨b, more, hoctets, hb⟩ := exists_octet_of_plain hlow hquote hslash
      cases h' with
      | plain _ _ _ =>
          obtain rfl := utf8EncodeChar_append_inj heq
          exact ⟨rfl, rfl⟩
      | letter _ =>
          rw [hoctets] at heq
          exact absurd (List.cons.inj heq).1 hb
      | number _ =>
          rw [hoctets] at heq
          exact absurd (List.cons.inj heq).1 hb
  | @letter b c hletter =>
      cases h' with
      | @plain c' hlow hquote hslash =>
          obtain ⟨b', more, hoctets, hb⟩ := exists_octet_of_plain hlow hquote hslash
          rw [hoctets] at heq
          exact absurd (List.cons.inj heq).1.symm hb
      | letter hletter' =>
          obtain ⟨rfl, -⟩ := List.cons.inj (List.cons.inj heq).2
          have hsame := (letter_facts hletter).1
          rw [(letter_facts hletter').1] at hsame
          cases hsame
          exact ⟨rfl, rfl⟩
      | number _ =>
          obtain ⟨rfl, -⟩ := List.cons.inj (List.cons.inj heq).2
          exact absurd rfl (letter_facts hletter).2
  | @number a b c d n hnumber =>
      cases h' with
      | @plain c' hlow hquote hslash =>
          obtain ⟨b', more, hoctets, hb⟩ := exists_octet_of_plain hlow hquote hslash
          rw [hoctets] at heq
          exact absurd (List.cons.inj heq).1.symm hb
      | letter hletter =>
          obtain ⟨rfl, -⟩ := List.cons.inj (List.cons.inj heq).2
          exact absurd rfl (letter_facts hletter).2
      | number hnumber' =>
          simp only [List.cons_append, List.nil_append, List.cons.injEq, true_and] at heq
          obtain ⟨rfl, rfl, rfl, rfl, -⟩ := heq
          have hsame := hexNumber?_eq_some_iff.mpr hnumber
          rw [hexNumber?_eq_some_iff.mpr hnumber'] at hsame
          cases hsame
          exact ⟨rfl, rfl⟩

/-- **The octets of a string determine its code points.** -/
theorem Inside.unique {s : Bytes} {points points' : List Nat} (h : Inside s points)
    (h' : Inside s points') : points = points' := by
  generalize hs : s = s' at h'
  induction h generalizing s' points' with
  | nil =>
      cases h' with
      | nil => rfl
      | cons hinner _ => exact absurd (List.append_eq_nil_iff.mp hs.symm).1 hinner.ne_nil
  | cons hinner _ ih =>
      cases h' with
      | nil => exact absurd (List.append_eq_nil_iff.mp hs).1 hinner.ne_nil
      | cons hinner' hrest' =>
          obtain ⟨rfl, rfl⟩ := hinner.unique hinner' hs
          rw [ih _ (List.append_cancel_left hs) hrest']

/-- The octets tell where a string ends. -/
theorem Inside.eq_of_append {s s' rest rest' : Bytes} {points points' : List Nat}
    (h : Inside s points) (h' : Inside s' points')
    (heq : s ++ 0x22 :: rest = s' ++ 0x22 :: rest') : s = s' ∧ rest = rest' := by
  have hskip := skipText_inside h rest
  rw [heq, skipText_inside h'] at hskip
  cases hskip
  exact ⟨List.append_cancel_right heq, rfl⟩

/-- Whether a string stands for a text is settled by any reading of it. -/
theorem isStringText_iff {s : Bytes} {points : List Nat} (h : Inside s points) {text : Text} :
    IsStringText (0x22 :: (s ++ [0x22])) text ↔ ofPoints? points = some text := by
  constructor
  · rintro ⟨s', points', heq, h', hpoints⟩
    obtain rfl := List.append_cancel_right (List.cons.inj heq).2
    rwa [h.unique h']
  · intro hpoints
    exact ⟨s, points, rfl, h, hpoints⟩

/-- A string stands for one text at most. -/
theorem IsStringText.unique {v : Bytes} {text text' : Text} (h : IsStringText v text)
    (h' : IsStringText v text') : text = text' := by
  obtain ⟨s, points, rfl, hinside, hpoints⟩ := h
  rw [isStringText_iff hinside, hpoints] at h'
  exact Option.some.inj h'

end JobsGateway.Json
