import JobsGateway.Proofs.Client.Trailer
import JobsGateway.Proofs.Text.Decimal

/-!
# What a chunked body is

A chunked body is described by its size lines, the data after them, and the
trailer at its end. The reader goes octet by octet; it succeeds exactly on texts
that begin with such a body, and what it reads is the data in their order.
-/

namespace JobsGateway.Reply

/-! ## Texts of a chunked body -/

/-- The end of a size line, with the number of octets of its extensions. -/
inductive SizeEnd : Bytes → Nat → Prop
  | plain : SizeEnd [0x0D, 0x0A] 0
  | extended {extension : Bytes} : (∀ b ∈ extension, b ≠ 0x0D ∧ b ≠ 0x0A) →
      SizeEnd (0x3B :: extension ++ [0x0D, 0x0A]) extension.length

/-- A size line, with the size and the number of octets of its extensions. -/
inductive SizeLine : Bytes → Nat → Nat → Prop
  | mk {digits blanks close : Bytes} {n spent : Nat} :
      Text.natural? 16 (charsOf digits) = some n → n < Text.word →
      (∀ b ∈ blanks, isBlank b = true) → SizeEnd close spent →
      SizeLine (digits ++ blanks ++ close) n spent

/-- A chunked text, the body that it carries, and the number of octets of its
extensions. -/
inductive Chunked : Bytes → Bytes → Nat → Prop
  | last {line trailer : Bytes} {spent : Nat} :
      SizeLine line 0 spent → Trailer trailer → Chunked (line ++ trailer) [] spent
  | chunk {line data s body : Bytes} {spent more : Nat} :
      data ≠ [] → SizeLine line data.length spent → Chunked s body more →
      Chunked (line ++ data ++ 0x0D :: 0x0A :: s) (data ++ body) (spent + more)

/-! ## Steps of the reader -/

section Steps

variable {room : Nat} {state next : ChunkState} {b : UInt8} {rest : Bytes}

theorem readChunks_step (hstep : chunkStep room state b = .ok (some next))
    (hdata : state.isData = false) :
    readChunks room state (b :: rest) = readChunks (room - state.spends b) next rest := by
  rw [readChunks, hstep]
  simp only [hdata, Bool.false_eq_true, if_false]
  cases readChunks (room - state.spends b) next rest <;> rfl

/-- An octet of a body that is read leads on to the next state, unless it ends the
last size line. -/
theorem exists_next {body : Bytes} (h : readChunks room state (b :: rest) = .ok body)
    (hstate : ∀ n, state ≠ .sizeFeed n) :
    ∃ next more, chunkStep room state b = .ok (some next) ∧
      readChunks (room - state.spends b) next rest = .ok more ∧
        body = if state.isData then b :: more else more := by
  rw [readChunks] at h
  split at h
  · cases h
  · rename_i hstep
    cases state with
    | sizeFeed n => exact absurd rfl (hstate n)
    | start =>
        rw [chunkStep] at hstep
        split at hstep <;> cases hstep
    | size n =>
        rw [chunkStep] at hstep
        split at hstep
        · split at hstep <;> cases hstep
        · cases hafter : afterSize n .badChunkSize b <;> simp [hafter, Except.map] at hstep
    | blank n =>
        rw [chunkStep] at hstep
        cases hafter : afterSize n .badChunkBlank b <;> simp [hafter, Except.map] at hstep
    | extension n =>
        rw [chunkStep] at hstep
        repeat' split at hstep
        all_goals cases hstep
    | data left => cases hstep
    | dataReturn =>
        rw [chunkStep] at hstep
        split at hstep <;> cases hstep
    | dataFeed =>
        rw [chunkStep] at hstep
        split at hstep <;> cases hstep
  · rename_i next hstep
    obtain ⟨more, hmore, rfl⟩ := Outcome.map_eq_ok_iff.mp h
    exact ⟨next, more, hstep, hmore, rfl⟩

/-- What is read after a size line. -/
def readAfterLine (room n : Nat) (s : Bytes) : Except BodyFault Bytes :=
  if n = 0 then (readTrailer s).map fun _ => [] else readChunks room (.data n) s

theorem readChunks_sizeFeed (room n : Nat) (rest : Bytes) :
    readChunks room (.sizeFeed n) (0x0A :: rest) = readAfterLine room n rest := by
  by_cases hn : n = 0
  · rw [readChunks, chunkStep, readAfterLine, if_pos rfl, if_pos hn, if_pos hn]
  · rw [readAfterLine, if_neg hn, readChunks_step]
    · rfl
    · rw [chunkStep, if_pos rfl, if_neg hn]
    · rfl

end Steps

/-! ## Size lines -/

section Size

variable {room n : Nat} {rest : Bytes}

theorem readChunks_return (room n : Nat) (rest : Bytes) :
    readChunks room (.extension n) (0x0D :: rest) = readChunks room (.sizeFeed n) rest ∧
      readChunks room (.blank n) (0x0D :: rest) = readChunks room (.sizeFeed n) rest ∧
        readChunks room (.size n) (0x0D :: rest) = readChunks room (.sizeFeed n) rest :=
  ⟨readChunks_step rfl rfl, readChunks_step rfl rfl, readChunks_step rfl rfl⟩

/-- Extensions are passed over while there is room for them. -/
theorem readChunks_extension {extension : Bytes}
    (hextension : ∀ b ∈ extension, b ≠ 0x0D ∧ b ≠ 0x0A) (hroom : extension.length ≤ room - 1)
    (n : Nat) (rest : Bytes) :
    readChunks room (.extension n) (extension ++ 0x0D :: 0x0A :: rest) =
      readAfterLine (room - extension.length) n rest := by
  induction extension generalizing room with
  | nil =>
      rw [List.nil_append, (readChunks_return ..).1, readChunks_sizeFeed]
      rfl
  | cons b extension ih =>
      obtain ⟨hb, hextension⟩ := List.forall_mem_cons.mp hextension
      rw [List.length_cons] at hroom ⊢
      have hstep : chunkStep room (.extension n) b = .ok (some (.extension n)) := by
        rw [chunkStep, if_neg hb.1, if_neg hb.2, if_neg (by omega)]
      have hspends : ChunkState.spends (.extension n) b = 1 := if_neg hb.1
      rw [List.cons_append, readChunks_step hstep rfl, hspends, ih hextension (by omega)]
      congr 1
      omega

/-- A line end is looked for in the same way after digits and after blanks. -/
theorem readChunks_close {close : Bytes} {spent : Nat} (hclose : SizeEnd close spent)
    (hroom : spent ≤ room - 1) (n : Nat) (rest : Bytes) :
    readChunks room (.blank n) (close ++ rest) = readAfterLine (room - spent) n rest ∧
      readChunks room (.size n) (close ++ rest) = readAfterLine (room - spent) n rest := by
  cases hclose with
  | plain =>
      have hfeed := readChunks_sizeFeed room n rest
      exact ⟨(readChunks_return ..).2.1.trans hfeed, (readChunks_return ..).2.2.trans hfeed⟩
  | @extended extension hextension =>
      have hread := readChunks_extension hextension hroom n rest
      have htext : 0x3B :: extension ++ [0x0D, 0x0A] ++ rest =
          0x3B :: (extension ++ 0x0D :: 0x0A :: rest) := by simp
      rw [htext, ← hread]
      exact ⟨readChunks_step rfl rfl, readChunks_step rfl rfl⟩

theorem hexDigit?_of_blank {b : UInt8} (h : isBlank b = true) : hexDigit? b = none := by
  rw [isBlank, Bool.or_eq_true, beq_iff_eq, beq_iff_eq] at h
  rcases h with rfl | rfl <;> rfl

theorem afterSize_of_blank {b : UInt8} (h : isBlank b = true) (n : Nat) (fault : BodyFault) :
    afterSize n fault b = .ok (.blank n) :=
  if_pos h

/-- Blanks are passed over up to the end of the line. -/
theorem readChunks_blanks {blanks close : Bytes} {spent : Nat}
    (hblanks : ∀ b ∈ blanks, isBlank b = true) (hclose : SizeEnd close spent)
    (hroom : spent ≤ room - 1) (n : Nat) (rest : Bytes) :
    readChunks room (.blank n) (blanks ++ close ++ rest) = readAfterLine (room - spent) n rest ∧
      readChunks room (.size n) (blanks ++ close ++ rest) =
        readAfterLine (room - spent) n rest := by
  induction blanks with
  | nil => exact readChunks_close hclose hroom n rest
  | cons b blanks ih =>
      obtain ⟨hb, hblanks⟩ := List.forall_mem_cons.mp hblanks
      obtain ⟨ih, -⟩ := ih hblanks
      have hblank : chunkStep room (.blank n) b = .ok (some (.blank n)) := by
        rw [chunkStep, afterSize_of_blank hb]
        rfl
      have hsize : chunkStep room (.size n) b = .ok (some (.blank n)) := by
        simp only [chunkStep, hexDigit?_of_blank hb, afterSize_of_blank hb]
        rfl
      rw [← ih]
      exact ⟨readChunks_step hblank rfl, readChunks_step hsize rfl⟩

/-- Digits are taken up while the size fits. -/
theorem readChunks_digits {digits blanks close : Bytes} {spent m : Nat}
    (hdigits : Text.naturalFrom? 16 n (charsOf digits) = some m) (hm : m < Text.word)
    (hblanks : ∀ b ∈ blanks, isBlank b = true) (hclose : SizeEnd close spent)
    (hroom : spent ≤ room - 1) (rest : Bytes) :
    readChunks room (.size n) (digits ++ blanks ++ close ++ rest) =
      readAfterLine (room - spent) m rest := by
  induction digits generalizing n with
  | nil =>
      cases hdigits
      exact (readChunks_blanks hblanks hclose hroom _ rest).2
  | cons b digits ih =>
      obtain ⟨d, hd, hdigits⟩ := Option.bind_eq_some_iff.mp hdigits
      have hle : n * 16 + d < Text.word := by
        refine Nat.lt_of_le_of_lt ?_ hm
        exact Text.le_of_naturalFrom? (by omega) hdigits
      have hstep : chunkStep room (.size n) b = .ok (some (.size (n * 16 + d))) := by
        have hdigit : hexDigit? b = some d := hd
        simp only [chunkStep, hdigit, if_pos hle]
      rw [← ih hdigits]
      exact readChunks_step hstep rfl

/-- **A size line is passed over,** and its size is known. -/
theorem readChunks_line {line : Bytes} {spent : Nat} (hline : SizeLine line n spent)
    (hroom : spent ≤ room - 1) (rest : Bytes) :
    readChunks room .start (line ++ rest) = readAfterLine (room - spent) n rest := by
  cases hline with
  | @mk digits blanks close _ _ hdigits hn hblanks hclose =>
      cases digits with
      | nil => cases hdigits
      | cons b digits =>
          obtain ⟨d, hd, hdigits⟩ := Option.bind_eq_some_iff.mp hdigits
          rw [Nat.zero_mul, Nat.zero_add] at hdigits
          have hstep : chunkStep room .start b = .ok (some (.size d)) := by
            have hdigit : hexDigit? b = some d := hd
            simp only [chunkStep, hdigit]
          rw [← readChunks_digits hdigits hn hblanks hclose hroom rest]
          exact readChunks_step hstep rfl

end Size

/-! ## Bodies that are read -/

section Read

variable {room n : Nat} {s body : Bytes}

theorem exists_of_sizeFeed (h : readChunks room (.sizeFeed n) s = .ok body) :
    ∃ rest, s = 0x0A :: rest := by
  cases s with
  | nil => cases h
  | cons b s =>
      by_cases hb : b = 0x0A
      · exact ⟨s, by rw [hb]⟩
      · have hstep : chunkStep room (.sizeFeed n) b = .error .badChunkLineEnd := if_neg hb
        rw [readChunks, hstep] at h
        cases h

theorem exists_of_extension (h : readChunks room (.extension n) s = .ok body) :
    ∃ extension rest, (∀ b ∈ extension, b ≠ 0x0D ∧ b ≠ 0x0A) ∧ extension.length ≤ room - 1 ∧
      s = extension ++ 0x0D :: 0x0A :: rest := by
  induction s generalizing room body with
  | nil => cases h
  | cons b s ih =>
      obtain ⟨next, more, hstep, hmore, -⟩ := exists_next h (by simp)
      rw [chunkStep] at hstep
      by_cases hreturn : b = 0x0D
      · rw [if_pos hreturn] at hstep
        cases hstep
        obtain ⟨rest, rfl⟩ := exists_of_sizeFeed hmore
        exact ⟨[], rest, by simp, Nat.zero_le _, by rw [hreturn]; rfl⟩
      · have hspends : ChunkState.spends (.extension n) b = 1 := if_neg hreturn
        rw [if_neg hreturn] at hstep
        split at hstep
        · cases hstep
        · rename_i hfeed
          split at hstep
          · cases hstep
          · rename_i hroom
            cases hstep
            rw [hspends] at hmore
            obtain ⟨extension, rest, hextension, hlength, rfl⟩ := ih hmore
            refine ⟨b :: extension, rest, ?_, ?_, rfl⟩
            · exact List.forall_mem_cons.mpr ⟨⟨hreturn, hfeed⟩, hextension⟩
            · rw [List.length_cons]
              omega

/-- Where a size line goes on with blanks, if anything. -/
def EndsLine (room : Nat) (s : Bytes) : Prop :=
  ∃ blanks close spent rest, (∀ b ∈ blanks, isBlank b = true) ∧ SizeEnd close spent ∧
    spent ≤ room - 1 ∧ s = blanks ++ close ++ rest

/-- The octet after the digits or a blank leads to the end of the line. -/
theorem endsLine_of_afterSize {fault : BodyFault} {b : UInt8} {next : ChunkState}
    (hafter : afterSize n fault b = .ok next) (h : readChunks room next s = .ok body)
    (ih : readChunks room (.blank n) s = .ok body → EndsLine room s) :
    EndsLine room (b :: s) := by
  unfold afterSize at hafter
  split at hafter
  · rename_i hb
    cases hafter
    obtain ⟨blanks, close, spent, rest, hblanks, hclose, hroom, rfl⟩ := ih h
    exact ⟨b :: blanks, close, spent, rest, List.forall_mem_cons.mpr ⟨hb, hblanks⟩, hclose,
      hroom, rfl⟩
  · split at hafter
    · rename_i hb
      cases hafter
      obtain ⟨extension, rest, hextension, hroom, rfl⟩ := exists_of_extension h
      exact ⟨[], _, _, rest, by simp, .extended hextension, hroom, by simp [hb]⟩
    · split at hafter
      · rename_i hb
        cases hafter
        obtain ⟨rest, rfl⟩ := exists_of_sizeFeed h
        exact ⟨[], _, _, rest, by simp, .plain, Nat.zero_le _, by simp [hb]⟩
      · cases hafter

theorem endsLine_of_blank (h : readChunks room (.blank n) s = .ok body) : EndsLine room s := by
  induction s generalizing body with
  | nil => cases h
  | cons b s ih =>
      obtain ⟨next, more, hstep, hmore, rfl⟩ := exists_next h (by simp)
      obtain ⟨state, hafter, heq⟩ := Outcome.map_eq_ok_iff.mp hstep
      cases heq
      exact endsLine_of_afterSize hafter hmore ih

/-- Digits are followed by the rest of a size line. -/
theorem exists_of_size (hn : n < Text.word) (h : readChunks room (.size n) s = .ok body) :
    ∃ digits m rest, Text.naturalFrom? 16 n (charsOf digits) = some m ∧ m < Text.word ∧
      EndsLine room rest ∧ s = digits ++ rest := by
  induction s generalizing n body with
  | nil => cases h
  | cons b s ih =>
      obtain ⟨next, more, hstep, hmore, rfl⟩ := exists_next h (by simp)
      rw [chunkStep] at hstep
      split at hstep
      · rename_i d hd
        split at hstep
        · rename_i hlt
          cases hstep
          obtain ⟨digits, m, rest, hdigits, hm, hrest, rfl⟩ := ih hlt hmore
          refine ⟨b :: digits, m, rest, ?_, hm, hrest, rfl⟩
          exact Option.bind_eq_some_iff.mpr ⟨d, hd, hdigits⟩
        · cases hstep
      · obtain ⟨state, hafter, heq⟩ := Outcome.map_eq_ok_iff.mp hstep
        cases heq
        exact ⟨[], n, b :: s, rfl, hn, endsLine_of_afterSize hafter hmore endsLine_of_blank, rfl⟩

/-- **A chunked body that is read begins with a size line.** -/
theorem exists_line (h : readChunks room .start s = .ok body) :
    ∃ line n spent rest, SizeLine line n spent ∧ spent ≤ room - 1 ∧ s = line ++ rest := by
  cases s with
  | nil => cases h
  | cons b s =>
      obtain ⟨next, more, hstep, hmore, rfl⟩ := exists_next h (by simp)
      rw [chunkStep] at hstep
      split at hstep
      · rename_i d hd
        cases hstep
        have hlt : d < Text.word := Nat.lt_trans (Text.lt_of_digitIn? hd) (by decide)
        obtain ⟨digits, m, rest, hdigits, hm, hrest, rfl⟩ := exists_of_size hlt hmore
        obtain ⟨blanks, close, spent, rest, hblanks, hclose, hroom, rfl⟩ := hrest
        have hnatural : Text.natural? 16 (charsOf (b :: digits)) = some m := by
          refine Option.bind_eq_some_iff.mpr ⟨d, hd, ?_⟩
          rw [Nat.zero_mul, Nat.zero_add]
          exact hdigits
        exact ⟨_, m, spent, rest, .mk hnatural hm hblanks hclose, hroom, by simp⟩
      · cases hstep

/-! ## Data -/

/-- As many octets are data as the size says. -/
theorem readChunks_data {data : Bytes} (hdata : data ≠ []) (room : Nat) (rest : Bytes) :
    readChunks room (.data data.length) (data ++ 0x0D :: 0x0A :: rest) =
      (readChunks room .start rest).map (data ++ ·) := by
  induction data with
  | nil => exact absurd rfl hdata
  | cons b data ih =>
      rw [List.cons_append, readChunks, chunkStep]
      cases data with
      | nil =>
          have hreturn : readChunks room .dataReturn (0x0D :: 0x0A :: rest) =
              readChunks room .start rest :=
            (readChunks_step rfl rfl).trans (readChunks_step rfl rfl)
          simp only [List.length_cons, List.length_nil, Nat.zero_add, Nat.le_refl, if_true,
            List.nil_append, ChunkState.spends, Nat.sub_zero, hreturn]
          rfl
      | cons c data =>
          have hlong : ¬ (b :: c :: data).length ≤ 1 := by simp
          have ih := ih (List.cons_ne_nil c data)
          simp only [if_neg hlong, ChunkState.spends, Nat.sub_zero]
          show (readChunks room (.data (c :: data).length) _).map _ = _
          rw [ih]
          cases readChunks room .start rest <;> rfl

theorem exists_of_dataReturn (h : readChunks room .dataReturn s = .ok body) :
    ∃ rest, s = 0x0D :: 0x0A :: rest := by
  cases s with
  | nil => cases h
  | cons b s =>
      obtain ⟨next, more, hstep, hmore, rfl⟩ := exists_next h (by simp)
      rw [chunkStep] at hstep
      split at hstep
      · rename_i hb
        cases hstep
        cases s with
        | nil => cases hmore
        | cons c s =>
            obtain ⟨next, more, hstep, hmore, rfl⟩ := exists_next hmore (by simp)
            rw [chunkStep] at hstep
            split at hstep
            · rename_i hc
              exact ⟨s, by rw [hb, hc]⟩
            · cases hstep
      · cases hstep

/-- Data that are read are whole. -/
theorem exists_of_data (hn : n ≠ 0) (h : readChunks room (.data n) s = .ok body) :
    ∃ data rest, data.length = n ∧ s = data ++ 0x0D :: 0x0A :: rest := by
  induction s generalizing n body with
  | nil => cases h
  | cons b s ih =>
      obtain ⟨next, more, hstep, hmore, -⟩ := exists_next h (by simp)
      rw [chunkStep] at hstep
      split at hstep
      · rename_i hle
        cases hstep
        obtain ⟨rest, rfl⟩ := exists_of_dataReturn hmore
        refine ⟨[b], rest, ?_, rfl⟩
        simp only [List.length_singleton]
        omega
      · rename_i hle
        cases hstep
        obtain ⟨data, rest, hlength, rfl⟩ := ih (by omega) hmore
        refine ⟨b :: data, rest, ?_, rfl⟩
        rw [List.length_cons]
        omega

/-- **A chunked body is read exactly where there is one,** and what is read is
the data of its chunks. -/
theorem readChunks_eq_ok_iff :
    readChunks room .start s = .ok body ↔
      ∃ text spent rest, Chunked text body spent ∧ spent ≤ room - 1 ∧ s = text ++ rest := by
  constructor
  · intro h
    -- Each chunk takes up a size line, which is not empty.
    induction hlength : s.length using Nat.strongRecOn generalizing room s body with
    | ind length ih =>
        obtain ⟨line, n, spent, rest, hline, hspent, rfl⟩ := exists_line h
        rw [readChunks_line hline hspent, readAfterLine] at h
        split at h
        · rename_i hn
          obtain ⟨_, hread, rfl⟩ := Outcome.map_eq_ok_iff.mp h
          obtain ⟨trailer, rest, htrailer, rfl⟩ := readTrailer_eq_ok_iff.mp hread
          exact ⟨_, spent, rest, .last (hn ▸ hline) htrailer, hspent, by simp⟩
        · rename_i hn
          obtain ⟨data, rest, rfl, rfl⟩ := exists_of_data hn h
          have hdata : data ≠ [] := fun hnil => hn (by rw [hnil]; rfl)
          rw [readChunks_data hdata] at h
          obtain ⟨more, hmore, rfl⟩ := Outcome.map_eq_ok_iff.mp h
          have hshort : rest.length < length := by
            simp only [List.length_append, List.length_cons] at hlength
            omega
          obtain ⟨text, spent', rest, htext, hspent', rfl⟩ := ih _ hshort hmore rfl
          exact ⟨_, spent + spent', rest, .chunk hdata hline htext, by omega, by simp⟩
  · rintro ⟨text, spent, rest, htext, hspent, rfl⟩
    induction htext generalizing room with
    | @last line trailer spent hline htrailer =>
        have hread : readTrailer (trailer ++ rest) = .ok () :=
          readTrailer_eq_ok_iff.mpr ⟨trailer, rest, htrailer, rfl⟩
        rw [List.append_assoc, readChunks_line hline hspent, readAfterLine, if_pos rfl, hread]
        rfl
    | @chunk line data s body spent more hdata hline _ ih =>
        have hlength : data.length ≠ 0 := fun hnil => hdata (List.length_eq_zero_iff.mp hnil)
        have htext : line ++ data ++ 0x0D :: 0x0A :: s ++ rest =
            line ++ (data ++ 0x0D :: 0x0A :: (s ++ rest)) := by simp
        rw [htext, readChunks_line hline (by omega), readAfterLine, if_neg hlength,
          readChunks_data hdata, ih (by omega)]
        rfl

end Read

end JobsGateway.Reply
