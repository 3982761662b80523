import JobsGateway.Client.Chunks
import JobsGateway.Proofs.Client.Head

/-!
# What a trailer is

A chunked body ends with a trailer: lines up to an empty one, of which there may
only be so many, and which hold fields. The lines are cut off octet by octet
before the fields are looked at, so a trailer is described in two parts as well.
-/

namespace JobsGateway.Reply

/-- The lines of a trailer up to an empty one, and how many there are. -/
inductive TrailerLines : Bytes → Nat → Prop
  | last : TrailerLines [0x0D, 0x0A] 0
  | line {line s : Bytes} {n : Nat} : line ≠ [] → 0x0D ∉ line → TrailerLines s n →
      TrailerLines (line ++ 0x0D :: 0x0A :: s) (n + 1)

/-- A trailer: neither its lines nor its octets are too many, and it begins with
fields, no more than there are lines. -/
inductive Trailer : Bytes → Prop
  | mk {block more : Bytes} {n : Nat} {fields : Fields} :
      TrailerLines (block ++ more) n → n < fieldLimit → (block ++ more).length < trailerLimit →
      FieldBlock block fields → fields.length ≤ n → Trailer (block ++ more)

/-! ## Cutting off the lines -/

/-- What is left of the lines of a trailer in a state. -/
def TrailerFrom : TrailerState → Bytes → Nat → Prop
  | .lineStart, s, n => TrailerLines s n
  | .line, s, n => ∃ line rest m,
      0x0D ∉ line ∧ TrailerLines rest m ∧ s = line ++ 0x0D :: 0x0A :: rest ∧ n = m + 1
  | .lineFeed, s, n => ∃ rest m, TrailerLines rest m ∧ s = 0x0A :: rest ∧ n = m + 1
  | .endFeed, s, n => s = [0x0A] ∧ n = 0

theorem trailerFrom_lineStart_cons {b : UInt8} {s : Bytes} {n : Nat} :
    TrailerFrom .lineStart (b :: s) n ↔
      TrailerFrom (if b = 0x0D then .endFeed else .line) s n := by
  constructor
  · intro h
    generalize htext : b :: s = text at h
    cases h with
    | last =>
        cases htext
        exact ⟨rfl, rfl⟩
    | @line line rest m hne hline hrest =>
        obtain ⟨c, more, rfl⟩ := List.exists_cons_of_ne_nil hne
        obtain ⟨rfl, rfl⟩ := List.cons.inj htext
        simp only [List.mem_cons, not_or] at hline
        rw [if_neg (Ne.symm hline.1)]
        exact ⟨more, rest, m, hline.2, hrest, rfl, rfl⟩
  · split
    · rename_i hb
      rintro ⟨rfl, rfl⟩
      rw [hb]
      exact .last
    · rename_i hb
      rintro ⟨line, rest, m, hline, hrest, rfl, rfl⟩
      have hall : 0x0D ∉ b :: line := by
        simp only [List.mem_cons, not_or]
        exact ⟨Ne.symm hb, hline⟩
      exact .line (List.cons_ne_nil b line) hall hrest

theorem trailerFrom_line_cons {b : UInt8} {s : Bytes} {n : Nat} :
    TrailerFrom .line (b :: s) n ↔
      TrailerFrom (if b = 0x0D then .lineFeed else .line) s n := by
  constructor
  · rintro ⟨line, rest, m, hline, hrest, htext, rfl⟩
    cases line with
    | nil =>
        obtain ⟨rfl, rfl⟩ := List.cons.inj htext
        exact ⟨rest, m, hrest, rfl, rfl⟩
    | cons c line =>
        obtain ⟨rfl, rfl⟩ := List.cons.inj htext
        simp only [List.mem_cons, not_or] at hline
        rw [if_neg (Ne.symm hline.1)]
        exact ⟨line, rest, m, hline.2, hrest, rfl, rfl⟩
  · split
    · rename_i hb
      rintro ⟨rest, m, hrest, rfl, rfl⟩
      exact ⟨[], rest, m, by simp, hrest, by rw [hb]; rfl, rfl⟩
    · rename_i hb
      rintro ⟨line, rest, m, hline, hrest, rfl, rfl⟩
      refine ⟨b :: line, rest, m, ?_, hrest, rfl, rfl⟩
      simp only [List.mem_cons, not_or]
      exact ⟨Ne.symm hb, hline⟩

theorem trailerFrom_lineFeed_cons {b : UInt8} {s : Bytes} {n : Nat} :
    TrailerFrom .lineFeed (b :: s) n ↔
      b = 0x0A ∧ ∃ m, n = m + 1 ∧ TrailerFrom .lineStart s m := by
  constructor
  · rintro ⟨rest, m, hrest, htext, rfl⟩
    obtain ⟨rfl, rfl⟩ := List.cons.inj htext
    exact ⟨rfl, m, rfl, hrest⟩
  · rintro ⟨rfl, m, rfl, hrest⟩
    exact ⟨s, m, hrest, rfl, rfl⟩

theorem TrailerFrom.ne_nil {state : TrailerState} {s : Bytes} {n : Nat}
    (h : TrailerFrom state s n) : s ≠ [] := by
  rintro rfl
  cases state with
  | lineStart =>
      generalize htext : ([] : Bytes) = text at h
      cases h with
      | last => cases htext
      | line hne _ _ => exact absurd htext (by simp)
  | line =>
      obtain ⟨line, rest, m, -, -, htext, -⟩ := h
      exact absurd htext (by simp)
  | lineFeed =>
      obtain ⟨rest, m, -, htext, -⟩ := h
      cases htext
  | endFeed => cases h.1

/-- What is cut off in a state, after so many lines. -/
def CutsOff (room lines : Nat) (state : TrailerState) (s text : Bytes) (n : Nat) : Prop :=
  ∃ k rest, TrailerFrom state text k ∧ n = lines + k ∧ n ≤ fieldLimit ∧
    text.length ≤ room - 1 ∧ s = text ++ rest

/-- One octet is cut off where it may stand and there is room for it. -/
theorem cutTrailer_step {room lines added : Nat} {state next : TrailerState} {b : UInt8}
    {s text : Bytes} {n : Nat}
    (hstep : trailerStep lines state b = .ok (some (next, lines + added)))
    (hfrom : ∀ t k, TrailerFrom state (b :: t) k ↔
      ∃ m, k = m + added ∧ TrailerFrom next t m)
    (ih : ∀ text n, cutTrailer (room - 1) (lines + added) next s = .ok (text, n) ↔
      CutsOff (room - 1) (lines + added) next s text n) :
    cutTrailer room lines state (b :: s) = .ok (text, n) ↔
      CutsOff room lines state (b :: s) text n := by
  rw [cutTrailer, hstep]
  constructor
  · intro h
    dsimp only at h
    split at h
    · cases h
    · rename_i hroom
      obtain ⟨⟨more, count⟩, hmore, heq⟩ := Outcome.map_eq_ok_iff.mp h
      obtain ⟨rfl, rfl⟩ := Prod.mk.inj heq
      obtain ⟨k, rest, hk, rfl, hle, hlength, rfl⟩ := (ih more count).mp hmore
      refine ⟨k + added, rest, (hfrom more _).mpr ⟨k, rfl, hk⟩, by omega, hle, ?_, rfl⟩
      show more.length + 1 ≤ room - 1
      omega
  · rintro ⟨k, rest, hk, rfl, hle, hlength, htext⟩
    obtain ⟨c, more, rfl⟩ := List.exists_cons_of_ne_nil hk.ne_nil
    rw [List.cons_append] at htext
    obtain ⟨rfl, rfl⟩ := List.cons.inj htext
    obtain ⟨m, rfl, hm⟩ := (hfrom more k).mp hk
    rw [List.length_cons] at hlength
    have hmore : cutTrailer (room - 1) (lines + added) next (more ++ rest) =
        .ok (more, lines + (m + added)) :=
      (ih _ _).mpr ⟨m, rest, hm, by omega, hle, by omega, rfl⟩
    dsimp only
    rw [if_neg (by omega), hmore]
    rfl

/-- A trailer is cut off exactly where its lines end. -/
theorem cutTrailer_eq_ok_iff {room lines : Nat} {state : TrailerState} {s text : Bytes} {n : Nat}
    (hlines : lines ≤ fieldLimit) :
    cutTrailer room lines state s = .ok (text, n) ↔ CutsOff room lines state s text n := by
  induction s generalizing room lines state text n with
  | nil =>
      constructor
      · intro h
        cases h
      · rintro ⟨k, rest, hk, -, -, -, htext⟩
        exact absurd (List.append_eq_nil_iff.mp htext.symm).1 hk.ne_nil
  | cons b s ih =>
      cases state with
      | lineStart =>
          have hstep : trailerStep lines .lineStart b =
              .ok (some (if b = 0x0D then .endFeed else .line, lines + 0)) := rfl
          refine cutTrailer_step hstep ?_ fun _ _ => ih hlines
          intro t k
          rw [trailerFrom_lineStart_cons]
          simp
      | line =>
          have hstep : trailerStep lines .line b =
              .ok (some (if b = 0x0D then .lineFeed else .line, lines + 0)) := rfl
          refine cutTrailer_step hstep ?_ fun _ _ => ih hlines
          intro t k
          rw [trailerFrom_line_cons]
          simp
      | lineFeed =>
          by_cases hb : b = 0x0A
          · by_cases hfull : fieldLimit ≤ lines
            · have hstep : trailerStep lines .lineFeed b = .error .tooManyTrailers := by
                rw [trailerStep, if_neg (not_not_intro hb), if_pos hfull]
              rw [cutTrailer, hstep]
              constructor
              · intro h
                cases h
              · rintro ⟨k, rest, ⟨_, m, _, _, rfl⟩, rfl, hle, -, -⟩
                omega
            · have hstep : trailerStep lines .lineFeed b = .ok (some (.lineStart, lines + 1)) := by
                rw [trailerStep, if_neg (not_not_intro hb), if_neg hfull]
              refine cutTrailer_step hstep ?_ fun _ _ => ih (by omega)
              intro t k
              rw [trailerFrom_lineFeed_cons, and_iff_right hb]
          · have hstep : trailerStep lines .lineFeed b = .error .badTrailerFeed := by
              rw [trailerStep, if_pos hb]
            rw [cutTrailer, hstep]
            constructor
            · intro h
              cases h
            · rintro ⟨k, rest, ⟨_, m, _, rfl, -⟩, -, -, -, htext⟩
              exact absurd (List.cons.inj htext).1 hb
      | endFeed =>
          rw [cutTrailer, trailerStep]
          by_cases hb : b = 0x0A
          · rw [if_pos hb, hb]
            dsimp only
            constructor
            · intro h
              split at h
              · cases h
              · cases h
                rename_i hroom
                refine ⟨0, s, ⟨rfl, rfl⟩, rfl, hlines, ?_, rfl⟩
                show 1 ≤ room - 1
                omega
            · rintro ⟨k, rest, ⟨rfl, rfl⟩, rfl, -, hlength, -⟩
              simp only [List.length_singleton] at hlength
              rw [if_neg (by omega)]
          · rw [if_neg hb]
            constructor
            · intro h
              cases h
            · rintro ⟨k, rest, ⟨rfl, -⟩, -, -, -, htext⟩
              exact absurd (List.cons.inj htext).1 hb

/-! ## The whole trailer -/

/-- **A trailer is read exactly where there is one.** -/
theorem readTrailer_eq_ok_iff {s : Bytes} :
    readTrailer s = .ok () ↔ ∃ trailer rest, Trailer trailer ∧ s = trailer ++ rest := by
  have hlimit : trailerLimit - 1 < trailerLimit := by decide
  constructor
  · intro h
    obtain ⟨⟨text, n⟩, hcut, hread⟩ := Outcome.bind_eq_ok_iff.mp h
    obtain ⟨k, rest, hlines, rfl, -, hlength, rfl⟩ :=
      (cutTrailer_eq_ok_iff (Nat.zero_le _)).mp hcut
    by_cases hmany : fieldLimit ≤ 0 + k
    · simp only [if_pos hmany] at hread
      cases hread
    · simp only [if_neg hmany] at hread
      obtain ⟨⟨fields, more⟩, hfields, -⟩ := Outcome.bind_eq_ok_iff.mp hread
      obtain ⟨block, hblock, hcount, rfl⟩ :=
        readFields_eq_ok_iff.mp (Outcome.mapError_eq_ok_iff.mp hfields)
      rw [Nat.zero_add] at hmany hcount
      exact ⟨_, rest, .mk hlines (Nat.lt_of_not_le hmany) (Nat.lt_of_le_of_lt hlength hlimit) hblock
        hcount, rfl⟩
  · rintro ⟨trailer, rest, htrailer, rfl⟩
    cases htrailer with
    | @mk block more n fields hlines hmany hlength hblock hcount =>
        have hcut : cutTrailer trailerLimit 0 .lineStart (block ++ more ++ rest) =
            .ok (block ++ more, n) := by
          refine (cutTrailer_eq_ok_iff (Nat.zero_le _)).mpr
            ⟨n, rest, hlines, (Nat.zero_add n).symm, Nat.le_of_lt hmany, ?_, rfl⟩
          omega
        have hfields : readFields n (block ++ more) = .ok (fields, more) :=
          readFields_eq_ok_iff.mpr ⟨block, hblock, hcount, rfl⟩
        refine Outcome.bind_eq_ok_iff.mpr ⟨_, hcut, ?_⟩
        simp only [if_neg (Nat.not_le_of_lt hmany)]
        exact Outcome.bind_eq_ok_iff.mpr
          ⟨_, Outcome.mapError_eq_ok_iff.mpr hfields, rfl⟩

end JobsGateway.Reply
