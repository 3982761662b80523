import JobsGateway.Proofs.Text.Split
import JobsGateway.Url.Idna.Punycode
import Mathlib.Data.List.TakeWhile

/-!
# A label read back from its Punycode

The reader follows the writer. After each number they agree about the bias, the
characters in place and the next insertion: the reader holds exactly the
characters of the label that the writer has placed, and the distance that the
writer counts is what leads from the reader's last insertion to where the
writer stands. So each number puts the next character in its place.
-/

namespace JobsGateway.Punycode

/-! ## Digits and numbers -/

theorem digitValue?_digit {d : Nat} (h : d < 36) : digitValue? (digit d) = some d := by
  have hall : ∀ k : Fin 36, digitValue? (digit k) = some k.val := by decide
  exact hall ⟨d, h⟩

/-- The digits of numbers: small letters and decimal digits. -/
def isDigitChar (c : Char) : Bool :=
  c.isLower || c.isDigit

theorem isDigitChar_digit {d : Nat} (h : d < 36) : isDigitChar (digit d) = true := by
  have hall : ∀ k : Fin 36, isDigitChar (digit k) = true := by decide
  exact hall ⟨d, h⟩

theorem threshold_bounds (k bias : Nat) : 1 ≤ threshold k bias ∧ threshold k bias ≤ 26 := by
  unfold threshold
  omega

theorem isDigitChar_of_mem_writeNumber {bias k value : Nat} {c : Char}
    (h : c ∈ writeNumber bias k value) : isDigitChar c = true := by
  fun_induction writeNumber bias k value with
  | case1 k value t hlt =>
      have ht : t ≤ 26 := (threshold_bounds k bias).2
      rw [List.mem_singleton.mp h]
      exact isDigitChar_digit (by omega)
  | case2 k value t hge ih =>
      have ht : 1 ≤ t ∧ t ≤ 26 := threshold_bounds k bias
      rcases List.mem_cons.mp h with rfl | h
      · have := Nat.mod_lt (value - t) (by omega : 0 < 36 - t)
        exact isDigitChar_digit (by omega)
      · exact ih h

theorem insert?_number (r : Reading) (value weight k total : Nat) :
    Reading.insert? { r with value := value, weight := weight, k := k } total =
      r.insert? total := rfl

/-- The digits of a number, read at some weight, lead to the insertion of that
number. -/
theorem run_writeNumber (r : Reading) (rest : Text) (k n value weight : Nat) :
    Reading.run { r with value := value, weight := weight, k := k }
        (writeNumber r.bias k n ++ rest) =
      (r.insert? (value + n * weight)).bind fun next => next.run rest := by
  fun_induction writeNumber r.bias k n generalizing value weight with
  | case1 k n t hlt =>
      have ht : t ≤ 26 := (threshold_bounds k r.bias).2
      simp only [List.singleton_append, Reading.run, digitValue?_digit (by omega : n < 36),
        insert?_number]
      rw [if_pos hlt]
      cases r.insert? (value + n * weight) <;> rfl
  | case2 k n t hge ih =>
      have ht : 1 ≤ t ∧ t ≤ 26 := threshold_bounds k r.bias
      have hmod := Nat.mod_lt (n - t) (by omega : 0 < 36 - t)
      simp only [List.cons_append, Reading.run,
        digitValue?_digit (by omega : t + (n - t) % (36 - t) < 36)]
      rw [if_neg (by omega)]
      have hsplit : t + (n - t) % (36 - t) + (n - t) / (36 - t) * (36 - t) = n := by
        have := Nat.div_add_mod' (n - t) (36 - t)
        omega
      have hvalue : value + (t + (n - t) % (36 - t)) * weight +
          (n - t) / (36 - t) * (weight * (36 - t)) = value + n * weight := by
        rw [Nat.mul_comm weight, ← Nat.mul_assoc, Nat.add_assoc, ← Nat.add_mul, hsplit]
      rw [← hvalue]
      exact ih _ _

/-- Some digits lead the reader from one state to another. -/
def Reading.Leads (r : Reading) (digits : Text) (r' : Reading) : Prop :=
  ∀ rest, r.run (digits ++ rest) = r'.run rest

theorem Reading.Leads.refl (r : Reading) : r.Leads [] r := fun _ => rfl

theorem Reading.Leads.trans {r r' r'' : Reading} {s t : Text} (h : r.Leads s r')
    (h' : r'.Leads t r'') : r.Leads (s ++ t) r'' := by
  intro rest
  rw [List.append_assoc, h, h']

/-! ## What reader and writer agree about -/

/-- Reader and writer agree, while the writer looks for the insertions of
`point` and has passed the front of the label: the reader has the characters up
to `point` of the front and those below it of the back. Its last insertion and
the distance lead to where the writer stands. -/
structure Agree (basic point : Nat) (front back : Text) (w : Writing) (r : Reading) :
    Prop where
  label : r.label = front.filter (·.toNat ≤ point) ++ back.filter (·.toNat < point)
  distance : r.point * (r.label.length + 1) + r.place + w.distance =
    point * (r.label.length + 1) + (front.filter (·.toNat ≤ point)).length
  placed : w.placed = r.label.length
  bias : r.bias = w.bias
  first : w.placed = basic ↔ r.place = 0
  basic_le : basic ≤ w.placed
  value : r.value = 0
  weight : r.weight = 1
  k : r.k = 36

variable {basic point : Nat} {front back : Text} {w : Writing} {r : Reading}

theorem Agree.run_writeNumber (h : Agree basic point front back w r) (rest : Text) :
    r.run (writeNumber w.bias 36 w.distance ++ rest) =
      (r.insert? w.distance).bind fun next => next.run rest := by
  have hr : { r with value := 0, weight := 1, k := 36 } = r := by
    rw [← h.value, ← h.weight, ← h.k]
  have hrun := Punycode.run_writeNumber r rest 36 w.distance 0 1
  rwa [hr, h.bias, Nat.zero_add, Nat.mul_one] at hrun

theorem split_total {a b n q total : Nat} (hq : q < n) (h : a * n + total = b * n + q) :
    a + total / n = b ∧ total % n = q := by
  have hn : 0 < n := by omega
  have hdiv (x y : Nat) : (x * n + y) / n = x + y / n := by
    rw [Nat.add_comm, Nat.add_mul_div_right _ _ hn, Nat.add_comm]
  have hmod (x y : Nat) : (x * n + y) % n = y % n := by
    rw [Nat.add_comm, Nat.add_mul_mod_self_right]
  constructor
  · rw [← hdiv, h, hdiv, Nat.div_eq_of_lt hq, Nat.add_zero]
  · rw [← hmod a, h, hmod, Nat.mod_eq_of_lt hq]

theorem toNat_bounds (c : Char) :
    c.toNat < 0x110000 ∧ ¬ (0xD800 ≤ c.toNat ∧ c.toNat ≤ 0xDFFF) := by
  have hvalid : c.toNat < 0xD800 ∨ (0xDFFF < c.toNat ∧ c.toNat < 0x110000) := c.valid
  omega

/-- Where the writer meets the character, its number makes the reader insert
it at the same place. -/
theorem Agree.insert? {c : Char} (h : Agree basic c.toNat front (c :: back) w r)
    (hfit : 0x110000 * (front ++ c :: back).length ≤ Nat.pow 2 32) :
    r.insert? w.distance = some
      { label := (front ++ [c]).filter (·.toNat ≤ c.toNat) ++ back.filter (·.toNat < c.toNat)
        point := c.toNat
        place := ((front ++ [c]).filter (·.toNat ≤ c.toNat)).length
        bias := adapt w.distance (w.placed + 1) (w.placed == basic)
        value := 0
        weight := 1
        k := 36 } := by
  have hback : (c :: back).filter (·.toNat < c.toNat) = back.filter (·.toNat < c.toNat) := by
    simp
  have hlast : (front ++ [c]).filter (·.toNat ≤ c.toNat) =
      front.filter (·.toNat ≤ c.toNat) ++ [c] := by
    simp
  have hlabel := h.label
  rw [hback] at hlabel
  have hcount : r.label.length = (front.filter (·.toNat ≤ c.toNat)).length +
      (back.filter (·.toNat < c.toNat)).length := by
    rw [hlabel, List.length_append]
  -- The count of places parts the whole distance into the point and the place in it.
  obtain ⟨hpoint, hplace⟩ := split_total (by omega) (Nat.add_assoc .. ▸ h.distance)
  have htotal : r.place + w.distance < Nat.pow 2 32 := by
    have hfront := List.length_filter_le (fun d : Char => decide (d.toNat ≤ c.toNat)) front
    have hrest := List.length_filter_le (fun d : Char => decide (d.toNat < c.toNat)) back
    rw [List.length_append, List.length_cons] at hfit
    have hmul : c.toNat * (r.label.length + 1) ≤ 0x10FFFF * (r.label.length + 1) :=
      Nat.mul_le_mul_right _ (by have := (toNat_bounds c).1; omega)
    have hdistance := h.distance
    have hpow : Nat.pow 2 32 = 4294967296 := rfl
    omega
  obtain ⟨hmax, hpair⟩ := toNat_bounds c
  have hfirst : (r.place == 0) = (w.placed == basic) := by
    rw [Bool.eq_iff_iff, beq_iff_eq, beq_iff_eq]
    exact h.first.symm
  unfold Reading.insert?
  simp only [hpoint, hplace]
  rw [if_pos (by simp [hmax, htotal]; omega), Char.ofNat_toNat, hfirst, hlast, ← h.placed]
  rw [hlabel, List.take_left, List.drop_left, List.length_append]
  simp

theorem Agree.insert {c : Char} (h : Agree basic c.toNat front (c :: back) w r)
    (hfit : 0x110000 * (front ++ c :: back).length ≤ Nat.pow 2 32) (digits : Text) :
    ∃ r', r.insert? w.distance = some r' ∧
      Agree basic c.toNat (front ++ [c]) back
        ⟨digits, 0, adapt w.distance (w.placed + 1) (w.placed == basic), w.placed + 1⟩ r' := by
  refine ⟨_, h.insert? hfit, ?_⟩
  have hlength : (((front ++ [c]).filter (·.toNat ≤ c.toNat)) ++
      back.filter (·.toNat < c.toNat)).length = r.label.length + 1 := by
    rw [h.label]
    simp
    omega
  have hbasic := h.basic_le
  exact {
    label := rfl
    distance := by simp
    placed := by
      show w.placed + 1 = _
      rw [hlength, h.placed]
    bias := rfl
    first := by simp; omega
    basic_le := Nat.le_succ_of_le hbasic
    value := rfl
    weight := rfl
    k := rfl }

/-- Passing over one character keeps the agreement. -/
theorem Agree.pass {c : Char} (h : Agree basic point front (c :: back) w r)
    (hfit : 0x110000 * (front ++ c :: back).length ≤ Nat.pow 2 32) :
    ∃ digits r', (w.pass basic point c).digits = w.digits ++ digits ∧ r.Leads digits r' ∧
      Agree basic point (front ++ [c]) back (w.pass basic point c) r' := by
  have hlabel := h.label
  have hdistance := h.distance
  unfold Writing.pass
  by_cases hlt : c.toNat < point
  · rw [if_pos hlt]
    refine ⟨[], r, (List.append_nil _).symm, .refl r, ?_⟩
    have hle : c.toNat ≤ point := Nat.le_of_lt hlt
    exact { h with
      label := by simp [hlabel, hlt, hle]
      distance := by
        simp only [List.filter_append, List.length_append]
        simp [hle]
        omega }
  · rw [if_neg hlt]
    by_cases heq : c.toNat = point
    · subst heq
      rw [if_pos (beq_self_eq_true _)]
      obtain ⟨r', hinsert, hagree⟩ :=
        h.insert hfit (w.digits ++ writeNumber w.bias 36 w.distance)
      refine ⟨_, r', rfl, fun rest => ?_, hagree⟩
      rw [h.run_writeNumber, hinsert]
      rfl
    · rw [if_neg (by simpa using heq)]
      refine ⟨[], r, (List.append_nil _).symm, .refl r, ?_⟩
      have hgt : ¬ c.toNat ≤ point := by omega
      exact { h with
        label := by simp [hlabel, hlt, hgt]
        distance := by simpa [hgt] using hdistance }

/-- Passing over the back of the label keeps the agreement. -/
theorem Agree.passAll (h : Agree basic point front back w r)
    (hfit : 0x110000 * (front ++ back).length ≤ Nat.pow 2 32) :
    ∃ digits r', (back.foldl (Writing.pass basic point) w).digits = w.digits ++ digits ∧
      r.Leads digits r' ∧
      Agree basic point (front ++ back) [] (back.foldl (Writing.pass basic point) w) r' := by
  induction back generalizing front w r with
  | nil => exact ⟨[], r, by simp, .refl r, by simpa using h⟩
  | cons c back ih =>
      obtain ⟨s, r₁, hs, hr₁, h₁⟩ := h.pass hfit
      have hcons : front ++ [c] ++ back = front ++ c :: back := by simp
      obtain ⟨t, r₂, ht, hr₂, h₂⟩ := ih h₁ (by rwa [hcons])
      rw [hcons] at h₂
      refine ⟨s ++ t, r₂, ?_, hr₁.trans hr₂, h₂⟩
      rw [List.foldl_cons, ht, hs, List.append_assoc]

/-! ## From point to point -/

variable {label : Text} {next : Nat}

/-- The writer goes on to a point, where the label has nothing before it. -/
theorem Agree.skip (h : Agree basic next [] label w r) (hle : next ≤ point)
    (hnone : ∀ c ∈ label, next ≤ c.toNat → point ≤ c.toNat) :
    Agree basic point [] label
      { w with distance := w.distance + (point - next) * (w.placed + 1) } r := by
  have hsame : label.filter (·.toNat < next) = label.filter (·.toNat < point) := by
    refine List.filter_congr fun c hc => ?_
    rw [decide_eq_decide]
    have := hnone c hc
    omega
  exact { h with
    label := by rw [← hsame]; exact h.label
    distance := by
      have hdistance := h.distance
      have hmul : (point - next) * (r.label.length + 1) + next * (r.label.length + 1) =
          point * (r.label.length + 1) := by
        rw [← Nat.add_mul, Nat.sub_add_cancel hle]
      simp only [h.placed]
      simp at hdistance ⊢
      omega }

/-- After the whole label the writer turns to the next point. -/
theorem Agree.turn (h : Agree basic point label [] w r) :
    Agree basic (point + 1) [] label { w with distance := w.distance + 1 } r := by
  have hsame : label.filter (·.toNat ≤ point) = label.filter (·.toNat < point + 1) := by
    refine List.filter_congr fun c _ => ?_
    rw [decide_eq_decide]
    omega
  have hlabel := h.label
  exact { h with
    label := by simpa [hsame] using hlabel
    distance := by
      have hdistance := h.distance
      have hcount : r.label.length = (label.filter (·.toNat ≤ point)).length := by
        rw [hlabel]
        simp
      rw [Nat.add_mul point 1]
      simp
      omega }

/-- The numbers of all points lead the reader to the whole label. -/
theorem Agree.run {points : List Nat} (h : Agree basic next [] label w r)
    (hfit : 0x110000 * label.length ≤ Nat.pow 2 32) (hrising : points.Pairwise (· < ·))
    (hge : ∀ p ∈ points, next ≤ p)
    (hall : ∀ c ∈ label, next ≤ c.toNat → c.toNat ∈ points) :
    ∃ digits r', (Writing.run label basic next points w).digits = w.digits ++ digits ∧
      r.Leads digits r' ∧ r'.label = label ∧ r'.k = 36 := by
  induction points generalizing next w r with
  | nil =>
      -- No point is left, so no character is above the last one.
      refine ⟨[], r, by simp [Writing.run], .refl r, ?_, h.k⟩
      rw [h.label, List.filter_nil, List.nil_append, List.filter_eq_self]
      intro c hc
      refine decide_eq_true (Nat.lt_of_not_le fun hle => ?_)
      exact absurd (hall c hc hle) List.not_mem_nil
  | cons point points ih =>
      obtain ⟨hlt, hrising⟩ := List.pairwise_cons.mp hrising
      have hskip := h.skip (hge point (by simp)) fun c hc hle => by
        rcases List.mem_cons.mp (hall c hc hle) with heq | hmem
        · exact Nat.le_of_eq heq.symm
        · exact Nat.le_of_lt (hlt _ hmem)
      obtain ⟨s, r₁, hs, hr₁, h₁⟩ := hskip.passAll hfit
      obtain ⟨t, r₂, ht, hr₂, hlabel, hk⟩ := ih h₁.turn hrising hlt fun c hc hle => by
        rcases List.mem_cons.mp (hall c hc (by have := hge point (by simp); omega)) with heq | hmem
        · omega
        · exact hmem
      refine ⟨s ++ t, r₂, ?_, hr₁.trans hr₂, hlabel, hk⟩
      rw [Writing.run, ht]
      simp only [hs, List.append_assoc]

/-! ## The points of a label -/

theorem mem_insertPoint {n m : Nat} {points : List Nat} :
    m ∈ insertPoint n points ↔ m = n ∨ m ∈ points := by
  induction points with
  | nil => simp [insertPoint]
  | cons p points ih =>
      unfold insertPoint
      split
      · simp
      · split
        · rename_i heq
          simp [heq]
        · rw [List.mem_cons, ih, List.mem_cons]
          exact or_left_comm

theorem rising_insertPoint {n : Nat} {points : List Nat} (h : points.Pairwise (· < ·)) :
    (insertPoint n points).Pairwise (· < ·) := by
  induction points with
  | nil => simp [insertPoint]
  | cons p points ih =>
      obtain ⟨hlt, hrest⟩ := List.pairwise_cons.mp h
      unfold insertPoint
      split
      · rename_i hn
        refine List.pairwise_cons.mpr ⟨fun m hm => ?_, h⟩
        rcases List.mem_cons.mp hm with rfl | hm
        · exact hn
        · exact Nat.lt_trans hn (hlt m hm)
      · split
        · exact h
        · refine List.pairwise_cons.mpr ⟨fun m hm => ?_, ih hrest⟩
          rcases mem_insertPoint.mp hm with rfl | hm
          · omega
          · exact hlt m hm

theorem mem_points {label : Text} {n : Nat} :
    n ∈ points label ↔ ∃ c ∈ label, 128 ≤ c.toNat ∧ c.toNat = n := by
  have hfold (text : Text) :
      n ∈ text.foldr (fun c rest => insertPoint c.toNat rest) [] ↔ ∃ c ∈ text, c.toNat = n := by
    induction text with
    | nil => simp
    | cons c text ih =>
        rw [List.foldr_cons, mem_insertPoint, ih]
        simp [eq_comm]
  rw [points, hfold]
  simp [and_assoc]

theorem rising_points (label : Text) : (points label).Pairwise (· < ·) := by
  unfold points
  induction label.filter (128 ≤ ·.toNat) with
  | nil => exact List.Pairwise.nil
  | cons c text ih => exact rising_insertPoint ih

/-! ## The whole label -/

/-- The ASCII characters of a label. -/
def basics (label : Text) : Text :=
  label.filter (·.toNat < 128)

/-- The numbers that say where the other characters go. -/
def numbers (label : Text) : Text :=
  (Writing.run label (basics label).length 128 (points label)
    ⟨[], 0, 72, (basics label).length⟩).digits

theorem encode_eq (label : Text) :
    encode label =
      (if (basics label).isEmpty then [] else basics label ++ ['-']) ++ numbers label := rfl

theorem digits_pass {basic point : Nat} {w : Writing} {c : Char}
    (h : ∀ d ∈ w.digits, isDigitChar d = true) :
    ∀ d ∈ (w.pass basic point c).digits, isDigitChar d = true := by
  unfold Writing.pass
  split
  · exact h
  · split
    · intro d hd
      rcases List.mem_append.mp hd with hd | hd
      · exact h d hd
      · exact isDigitChar_of_mem_writeNumber hd
    · exact h

theorem digits_passAll {basic point : Nat} (text : Text) {w : Writing}
    (h : ∀ d ∈ w.digits, isDigitChar d = true) :
    ∀ d ∈ (text.foldl (Writing.pass basic point) w).digits, isDigitChar d = true := by
  induction text generalizing w with
  | nil => exact h
  | cons c text ih => exact ih (digits_pass h)

theorem digits_run {label : Text} {basic : Nat} (points : List Nat) {next : Nat}
    {w : Writing} (h : ∀ d ∈ w.digits, isDigitChar d = true) :
    ∀ d ∈ (Writing.run label basic next points w).digits, isDigitChar d = true := by
  induction points generalizing next w with
  | nil => exact h
  | cons point points ih =>
      rw [Writing.run]
      refine ih ?_
      exact digits_passAll (w := { w with distance := _ }) label h

theorem isDigitChar_of_mem_numbers {label : Text} {c : Char} (h : c ∈ numbers label) :
    isDigitChar c = true :=
  digits_run _ (by simp) c h

theorem hyphen_notMem_numbers (label : Text) : '-' ∉ numbers label :=
  fun h => absurd (isDigitChar_of_mem_numbers h) (by decide)

/-- What Punycode is written with: ASCII characters of the label itself, the
hyphen, and digits of numbers. -/
theorem mem_encode {label : Text} {c : Char} (h : c ∈ encode label) :
    (c ∈ label ∧ c.toNat < 128) ∨ c = '-' ∨ isDigitChar c = true := by
  rw [encode_eq] at h
  rcases List.mem_append.mp h with h | h
  · split at h
    · cases h
    · rcases List.mem_append.mp h with h | h
      · rw [basics, List.mem_filter] at h
        exact Or.inl ⟨h.1, by simpa using h.2⟩
      · exact Or.inr (Or.inl (List.mem_singleton.mp h))
  · exact Or.inr (Or.inr (isDigitChar_of_mem_numbers h))

/-- The last hyphen stands between the ASCII characters and the numbers. -/
theorem cutBasic_encode (label : Text) :
    cutBasic (encode label) = (basics label, numbers label) := by
  have hnumbers : ∀ c ∈ (numbers label).reverse, (c != '-') = true :=
    Text.bne_of_notMem fun h => hyphen_notMem_numbers label (List.mem_reverse.mp h)
  rw [encode_eq]
  unfold cutBasic
  cases hbasic : basics label with
  | nil =>
      have hafter : (numbers label).reverse.takeWhile (· != '-') = (numbers label).reverse :=
        List.takeWhile_eq_self_iff.mpr hnumbers
      simp [hafter]
  | cons b rest =>
      have hafter : ((b :: rest) ++ ['-'] ++ numbers label).reverse.takeWhile (· != '-') =
          (numbers label).reverse := by
        simp only [List.reverse_append, List.append_assoc]
        rw [List.takeWhile_append_of_pos hnumbers]
        simp
      have hlength : ((b :: rest) ++ ['-'] ++ numbers label).length -
          (numbers label).length - 1 = (b :: rest).length := by
        simp
        omega
      simp only [List.isEmpty_cons, Bool.false_eq_true, if_false, hafter, List.reverse_reverse,
        hlength]
      rw [List.append_assoc, List.take_left]
      simp

/-- **Round trip.** A label that is not too long is read back from its Punycode. -/
theorem decode?_encode {label : Text}
    (hfit : 0x110000 * label.length ≤ Nat.pow 2 32) :
    decode? (encode label) = some label := by
  have hstart : Agree (basics label).length 128 [] label ⟨[], 0, 72, (basics label).length⟩
      ⟨basics label, 128, 0, 72, 0, 1, 36⟩ := {
    label := rfl
    distance := rfl
    placed := rfl
    bias := rfl
    first := by simp
    basic_le := Nat.le_refl _
    value := rfl
    weight := rfl
    k := rfl }
  obtain ⟨digits, r', hdigits, hleads, hlabel, hk⟩ :=
    hstart.run hfit (rising_points label)
      (fun p hp => by
        obtain ⟨c, -, hle, rfl⟩ := mem_points.mp hp
        exact hle)
      fun c hc hle => mem_points.mpr ⟨c, hc, hle, rfl⟩
  rw [List.nil_append] at hdigits
  unfold decode?
  rw [cutBasic_encode]
  show Reading.run _ (numbers label) = some label
  rw [numbers, hdigits, ← List.append_nil digits, hleads]
  simp [Reading.run, hk, hlabel]

end JobsGateway.Punycode
