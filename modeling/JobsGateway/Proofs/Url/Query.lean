import JobsGateway.Proofs.Text.Split
import JobsGateway.Proofs.Url.Percent

/-!
# Queries octet by octet

The query of a web URL may not have apostrophes and octets outside ASCII in it.
They are escaped when the query is put there, each octet for itself, and nothing
else is touched. No escape is made or broken by that, and neither are the marks
between parameters and between names and values. So whoever decodes the query
finds what was there before.
-/

namespace JobsGateway

/-- The characters of a query that a request can bring. -/
def Target.isQueryChar (c : Char) : Bool :=
  0x20 < c.toNat && !"\"#<>".toList.contains c

namespace Query

/-- An octet of a query, as it stands in a web URL: the apostrophe and all
octets from 0x7F on as escapes, and every other octet as it is. -/
def crossOctet (b : UInt8) : Bytes :=
  if b = 0x27 ∨ 0x7F ≤ b then Utf8.encode (Percent.escape b) else [b]

/-- The octets of a query, as they stand in a web URL. -/
def cross (query : Bytes) : Bytes :=
  query.flatMap crossOctet

theorem cross_cons (b : UInt8) (query : Bytes) : cross (b :: query) = crossOctet b ++ cross query :=
  List.flatMap_cons

/-! ## Characters -/

/-- Of the characters that a request can bring, the apostrophe and those from
0x7F on have to be escaped. -/
theorem inSpecialQuery_eq {c : Char} (h : Target.isQueryChar c = true) :
    Percent.inSpecialQuery c = decide (c.toNat = 0x27 ∨ 0x7F ≤ c.toNat) := by
  by_cases hlt : c.toNat < 0x80
  · exact Text.forall_ascii (P := fun c => Target.isQueryChar c = true →
      Percent.inSpecialQuery c = decide (c.toNat = 0x27 ∨ 0x7F ≤ c.toNat)) (by decide) hlt h
  · have hcontrols : Percent.controls c = true := by
      simp only [Percent.controls, Bool.or_eq_true, decide_eq_true_eq]
      omega
    have hlarge : c.toNat = 0x27 ∨ 0x7F ≤ c.toNat := by omega
    simp [Percent.inSpecialQuery, Percent.inQuery, hcontrols, hlarge]

theorem crossOctet_of_large {b : UInt8} (h : b.toNat = 0x27 ∨ 0x7F ≤ b.toNat) :
    crossOctet b = Utf8.encode (Percent.escape b) := by
  rw [crossOctet, if_pos]
  rcases h with h | h
  · exact Or.inl (UInt8.toNat_inj.mp h)
  · exact Or.inr (UInt8.le_iff_toNat_le.mpr h)

theorem crossOctet_of_not_large {b : UInt8} (h : ¬ (b.toNat = 0x27 ∨ 0x7F ≤ b.toNat)) :
    crossOctet b = [b] := by
  rw [crossOctet, if_neg]
  rintro (hb | hb)
  · exact h (Or.inl (congrArg UInt8.toNat hb))
  · exact h (Or.inr (UInt8.le_iff_toNat_le.mp hb))

theorem encode_encodeChar {c : Char} (h : Target.isQueryChar c = true) :
    Utf8.encode (Percent.encodeChar Percent.inSpecialQuery c) =
      (String.utf8EncodeChar c).flatMap crossOctet := by
  rw [Percent.encodeChar, inSpecialQuery_eq h]
  by_cases hlarge : c.toNat = 0x27 ∨ 0x7F ≤ c.toNat
  · rw [if_pos (decide_eq_true hlarge), Utf8.encode, List.flatMap_assoc]
    refine List.flatMap_congr fun b hb => ?_
    have hb : b.toNat = 0x27 ∨ 0x7F ≤ b.toNat := by
      by_cases hlt : c.toNat < 0x80
      · rw [Utf8.utf8EncodeChar_of_ascii hlt, List.mem_singleton] at hb
        rwa [hb, Utf8.toNat_octet hlt]
      · have hle := Utf8.octets_of_not_ascii (Nat.le_of_not_lt hlt) hb
        omega
    rw [crossOctet_of_large hb]
    rfl
  · have hlt : c.toNat < 0x80 := by omega
    have hb : ¬ ((UInt8.ofNat c.toNat).toNat = 0x27 ∨ 0x7F ≤ (UInt8.ofNat c.toNat).toNat) := by
      rwa [Utf8.toNat_octet hlt]
    rw [if_neg (by simpa using hlarge), Utf8.encode_cons_of_ascii hlt,
      Utf8.utf8EncodeChar_of_ascii hlt, List.flatMap_cons, crossOctet_of_not_large hb]
    rfl

/-- **A query is encoded octet by octet.** -/
theorem encode_encode {query : Text} (h : ∀ c ∈ query, Target.isQueryChar c = true) :
    Utf8.encode (Percent.encode Percent.inSpecialQuery query) = cross (Utf8.encode query) := by
  induction query with
  | nil => rfl
  | cons c query ih =>
      rw [Percent.encode_cons, Utf8.encode_append, Utf8.encode_cons,
        encode_encodeChar (h c List.mem_cons_self),
        ih fun d hd => h d (List.mem_cons_of_mem c hd)]
      exact List.flatMap_append.symm

/-! ## Escapes -/

/-- The octets that come next are two hexadecimal digits. -/
def startsWithDigits : Bytes → Bool
  | a :: b :: _ => (Percent.hexValue? a).isSome && (Percent.hexValue? b).isSome
  | _ => false

theorem decode_percent_of_digits {a b x y : UInt8} (hx : Percent.hexValue? a = some x)
    (hy : Percent.hexValue? b = some y) (rest : Bytes) :
    Percent.decode (0x25 :: a :: b :: rest) = (x * 16 + y) :: Percent.decode rest := by
  rw [Percent.decode, hx, hy]

/-- What does not start an escape stays, be it a percent sign. -/
theorem decode_cons {a : UInt8} {rest : Bytes}
    (h : a ≠ 0x25 ∨ startsWithDigits rest = false) :
    Percent.decode (a :: rest) = a :: Percent.decode rest := by
  rw [Percent.decode.eq_def]
  split
  · rename_i b c more heq
    obtain ⟨rfl, rfl⟩ := List.cons.inj heq
    have hdigits := h.resolve_left (not_not_intro rfl)
    split
    · rename_i hb hc
      simp [startsWithDigits, hb, hc] at hdigits
    · rfl
  · rename_i heq
    obtain ⟨rfl, rfl⟩ := List.cons.inj heq
    rfl
  · rename_i heq
    cases heq

theorem hexValue?_hexDigit {n : Nat} (h : n < 16) :
    (Percent.hexDigit n).toNat < 0x80 ∧
      Percent.hexValue? (UInt8.ofNat (Percent.hexDigit n).toNat) = some (UInt8.ofNat n) := by
  have hall : ∀ k : Fin 16, (Percent.hexDigit k).toNat < 0x80 ∧
      Percent.hexValue? (UInt8.ofNat (Percent.hexDigit k).toNat) = some (UInt8.ofNat k) := by
    decide
  exact hall ⟨n, h⟩

/-- The octets of an escape are a percent sign and two digits. -/
theorem encode_escape (b : UInt8) :
    ∃ high low, Utf8.encode (Percent.escape b) = [0x25, high, low] ∧
      Percent.hexValue? high = some (b / 16) ∧ Percent.hexValue? low = some (b % 16) := by
  have hb : b.toNat < 256 := b.toNat_lt
  obtain ⟨hhigh, hx⟩ := hexValue?_hexDigit (n := b.toNat / 16) (by omega)
  obtain ⟨hlow, hy⟩ := hexValue?_hexDigit (n := b.toNat % 16) (by omega)
  refine ⟨_, _, ?_, hx.trans (congrArg some ?_), hy.trans (congrArg some ?_)⟩
  · rw [Percent.escape, Utf8.encode_cons_of_ascii (by decide), Utf8.encode_cons_of_ascii hhigh,
      Utf8.encode_cons_of_ascii hlow]
    rfl
  · rw [← UInt8.toNat_inj, Utf8.toNat_ofNat_of_lt (by omega)]
    rfl
  · rw [← UInt8.toNat_inj, Utf8.toNat_ofNat_of_lt (by omega)]
    rfl

/-- An escape stands for its octet. -/
theorem decode_escape (b : UInt8) (rest : Bytes) :
    Percent.decode (Utf8.encode (Percent.escape b) ++ rest) = b :: Percent.decode rest := by
  obtain ⟨high, low, hescape, hhigh, hlow⟩ := encode_escape b
  have hvalue : b / 16 * 16 + b % 16 = b := by
    have hb : b.toNat < 256 := b.toNat_lt
    have hsixteen : (16 : UInt8).toNat = 16 := rfl
    rw [← UInt8.toNat_inj, UInt8.toNat_add, UInt8.toNat_mul, UInt8.toNat_div, UInt8.toNat_mod,
      hsixteen]
    omega
  rw [hescape]
  refine (decode_percent_of_digits hhigh hlow rest).trans ?_
  rw [hvalue]

theorem hexValue?_eq_none {b : UInt8} (h : b.toNat = 0x27 ∨ 0x7F ≤ b.toNat) :
    Percent.hexValue? b = none := by
  simp only [Percent.hexValue?, UInt8.le_iff_toNat_le, UInt8.reduceToNat, Bool.and_eq_true,
    decide_eq_true_eq]
  rw [if_neg (by omega), if_neg (by omega), if_neg (by omega)]

/-- An octet crosses as it is, or else it is no digit, and it crosses as an
escape. -/
theorem crossOctet_cases (b : UInt8) :
    crossOctet b = [b] ∨
      crossOctet b = Utf8.encode (Percent.escape b) ∧ Percent.hexValue? b = none := by
  by_cases h : b.toNat = 0x27 ∨ 0x7F ≤ b.toNat
  · exact Or.inr ⟨crossOctet_of_large h, hexValue?_eq_none h⟩
  · exact Or.inl (crossOctet_of_not_large h)

theorem crossOctet_of_digit {b x : UInt8} (h : Percent.hexValue? b = some x) :
    crossOctet b = [b] := by
  rcases crossOctet_cases b with hb | ⟨-, hnone⟩
  · exact hb
  · rw [hnone] at h
    cases h

/-- Crossing puts no two digits behind a percent sign, and takes none away. -/
theorem startsWithDigits_cross (query : Bytes) :
    startsWithDigits (cross query) = startsWithDigits query := by
  have hpercent : Percent.hexValue? 0x25 = none := by decide
  match query with
  | [] => rfl
  | a :: rest =>
      rw [cross_cons]
      rcases crossOctet_cases a with ha | ⟨ha, hnone⟩
      · match rest with
        | [] => rw [ha]; rfl
        | b :: more =>
            rw [ha, cross_cons]
            rcases crossOctet_cases b with hb | ⟨hb, hnone⟩
            · rw [hb]
              rfl
            · obtain ⟨high, low, hescape, -⟩ := encode_escape b
              rw [hb, hescape]
              simp [startsWithDigits, hpercent, hnone]
      · obtain ⟨high, low, hescape, -⟩ := encode_escape a
        rw [ha, hescape]
        cases rest <;> simp [startsWithDigits, hpercent, hnone]

theorem decode_cross_cons {a : UInt8} {rest : Bytes}
    (h : a ≠ 0x25 ∨ startsWithDigits rest = false)
    (ih : Percent.decode (cross rest) = Percent.decode rest) :
    Percent.decode (cross (a :: rest)) = Percent.decode (a :: rest) := by
  rw [cross_cons, decode_cons h, ← ih]
  rcases crossOctet_cases a with ha | ⟨ha, -⟩
  · have hrest : a ≠ 0x25 ∨ startsWithDigits (cross rest) = false := by
      rwa [startsWithDigits_cross]
    rw [ha]
    exact decode_cons hrest
  · rw [ha]
    exact decode_escape a (cross rest)

/-- **A query decodes to the same octets after it has crossed.** -/
theorem decode_cross (query : Bytes) :
    Percent.decode (cross query) = Percent.decode query := by
  induction query using Percent.decode.induct with
  | case1 a b rest x y hy hx ih =>
      have hcross : cross (0x25 :: a :: b :: rest) = 0x25 :: a :: b :: cross rest := by
        rw [cross_cons, cross_cons, cross_cons, crossOctet_of_digit hx, crossOctet_of_digit hy]
        rfl
      rw [hcross, decode_percent_of_digits hx hy, decode_percent_of_digits hx hy, ih]
  | case2 a b rest hnone ih =>
      refine decode_cross_cons (Or.inr ?_) ih
      cases hx : Percent.hexValue? a with
      | none => simp [startsWithDigits, hx]
      | some x =>
          cases hy : Percent.hexValue? b with
          | none => simp [startsWithDigits, hy]
          | some y => exact (hnone x y hx hy).elim
  | case3 a rest hshort ih =>
      refine decode_cross_cons ?_ ih
      match rest with
      | [] => exact Or.inr rfl
      | [_] => exact Or.inr rfl
      | b :: c :: more => exact Or.inl fun ha => hshort b c more ha rfl
  | case4 => rfl

/-- What has crossed once crosses again as it is: no escape is escaped. -/
theorem cross_cross (query : Bytes) : cross (cross query) = cross query := by
  rw [cross, cross, List.flatMap_assoc]
  refine List.flatMap_congr fun b _ => ?_
  rcases crossOctet_cases b with hb | ⟨hb, -⟩
  · rw [hb, List.flatMap_singleton, hb]
  · obtain ⟨high, low, hescape, hhigh, hlow⟩ := encode_escape b
    rw [hb, hescape, List.flatMap_cons, List.flatMap_cons, List.flatMap_singleton,
      crossOctet_of_digit hhigh, crossOctet_of_digit hlow]
    rfl

/-! ## Parameters -/

/-- A parameter of a query: its name, and its value if it has an equals sign. -/
structure Parameter where
  name : Bytes
  value : Option Bytes
  deriving Repr, DecidableEq

/-- The same of the name and of the value. -/
def Parameter.map (f : Bytes → Bytes) (p : Parameter) : Parameter where
  name := f p.name
  value := p.value.map f

/-- A piece of a query, cut at its first equals sign. -/
def Parameter.read (piece : Bytes) : Parameter where
  name := piece.takeWhile (· != 0x3D)
  value :=
    match piece.dropWhile (· != 0x3D) with
    | _ :: value => some value
    | [] => none

/-- The parameters of a query in their order, with those that come again and
those that are empty. -/
def parameters (query : Bytes) : List Parameter :=
  (query.splitOn 0x26).map Parameter.read

theorem crossOctet_mark {mark : UInt8} (hmark : mark = 0x26 ∨ mark = 0x3D) :
    crossOctet mark = [mark] := by
  rcases hmark with rfl | rfl <;> rfl

/-- No octet but a mark itself crosses as something with that mark in it. -/
theorem notMem_crossOctet {mark : UInt8} (hmark : mark = 0x26 ∨ mark = 0x3D) {b : UInt8}
    (hb : b ≠ mark) : mark ∉ crossOctet b := by
  have hnone : mark ≠ 0x25 ∧ Percent.hexValue? mark = none := by
    rcases hmark with rfl | rfl <;> decide
  intro hmem
  rcases crossOctet_cases b with hcross | ⟨hcross, -⟩
  · rw [hcross, List.mem_singleton] at hmem
    exact hb hmem.symm
  · obtain ⟨high, low, hescape, hhigh, hlow⟩ := encode_escape b
    simp only [hcross, hescape, List.mem_cons, List.not_mem_nil, or_false] at hmem
    rcases hmem with rfl | rfl | rfl
    · exact hnone.1 rfl
    · rw [hnone.2] at hhigh
      cases hhigh
    · rw [hnone.2] at hlow
      cases hlow

theorem splitOn_append {mark : UInt8} {front : Bytes} (h : mark ∉ front) (rest : Bytes) :
    (front ++ rest).splitOn mark = (rest.splitOn mark).modifyHead (front ++ ·) := by
  induction front with
  | nil => exact (congrFun List.modifyHead_id _).symm
  | cons b front ih =>
      have hb : (b == mark) = false := by
        rw [beq_eq_false_iff_ne]
        rintro rfl
        exact h List.mem_cons_self
      rw [List.cons_append, List.splitOn_cons_eq_if_modifyHead, hb,
        ih fun hmem => h (List.mem_cons_of_mem b hmem), if_neg (by simp),
        List.modifyHead_modifyHead]
      rfl

theorem splitOn_cross (query : Bytes) :
    (cross query).splitOn 0x26 = (query.splitOn 0x26).map cross := by
  induction query with
  | nil => rfl
  | cons b query ih =>
      by_cases hb : b = 0x26
      · rw [hb, cross_cons, crossOctet_mark (Or.inl rfl), List.singleton_append,
          List.splitOn_cons_eq_if_modifyHead, List.splitOn_cons_eq_if_modifyHead,
          if_pos (by rfl), if_pos (by rfl), ih]
        rfl
      · obtain ⟨first, others, hsplit⟩ :=
          List.exists_cons_of_ne_nil (List.splitOn_ne_nil 0x26 query)
        rw [cross_cons, splitOn_append (notMem_crossOctet (Or.inl rfl) hb), ih,
          List.splitOn_cons_eq_if_modifyHead, if_neg (by simpa using hb), hsplit]
        rfl

theorem takeWhile_cross (piece : Bytes) :
    (cross piece).takeWhile (· != 0x3D) = cross (piece.takeWhile (· != 0x3D)) ∧
      (cross piece).dropWhile (· != 0x3D) = cross (piece.dropWhile (· != 0x3D)) := by
  induction piece with
  | nil => exact ⟨rfl, rfl⟩
  | cons b piece ih =>
      by_cases hb : b = 0x3D
      · rw [hb, cross_cons, crossOctet_mark (Or.inr rfl)]
        exact ⟨rfl, rfl⟩
      · have hfront : ∀ d ∈ crossOctet b, (d != 0x3D) = true := by
          intro d hd
          rw [bne_iff_ne]
          rintro rfl
          exact notMem_crossOctet (Or.inr rfl) hb hd
        have htake : (b :: piece).takeWhile (· != 0x3D) = b :: piece.takeWhile (· != 0x3D) :=
          List.takeWhile_cons_of_pos (bne_iff_ne.mpr hb)
        have hdrop : (b :: piece).dropWhile (· != 0x3D) = piece.dropWhile (· != 0x3D) :=
          List.dropWhile_cons_of_pos (bne_iff_ne.mpr hb)
        rw [cross_cons, List.takeWhile_append_of_pos hfront, List.dropWhile_append_of_pos hfront,
          ih.1, ih.2, htake, hdrop, cross_cons]
        exact ⟨rfl, rfl⟩

theorem read_cross (piece : Bytes) :
    Parameter.read (cross piece) = (Parameter.read piece).map cross := by
  obtain ⟨hname, hvalue⟩ := takeWhile_cross piece
  unfold Parameter.read Parameter.map
  rw [hname, hvalue]
  cases hrest : piece.dropWhile (· != 0x3D) with
  | nil => rfl
  | cons b value =>
      -- What is cut at stays one octet.
      have hb : b = 0x3D := by
        have hhead := List.head?_dropWhile_not (· != (0x3D : UInt8)) piece
        simpa [hrest] using hhead
      rw [hb, cross_cons, crossOctet_mark (Or.inr rfl)]
      rfl

/-- **Parameters cross one by one**: none is lost, added, moved or parted, and
neither are their values. -/
theorem parameters_cross (query : Bytes) :
    parameters (cross query) = (parameters query).map (·.map cross) := by
  rw [parameters, splitOn_cross, parameters, List.map_map, List.map_map]
  exact List.map_congr_left fun piece _ => read_cross piece

/-- Whoever decodes the parameters finds what was there before. -/
theorem decoded_parameters_cross (query : Bytes) :
    (parameters (cross query)).map (·.map Percent.decode) =
      (parameters query).map (·.map Percent.decode) := by
  rw [parameters_cross, List.map_map]
  refine List.map_congr_left fun p _ => ?_
  have hdecode : Percent.decode ∘ cross = Percent.decode := funext decode_cross
  simp only [Function.comp_apply, Parameter.map, decode_cross, Option.map_map, hdecode]

end Query

end JobsGateway
