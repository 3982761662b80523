import JobsGateway.Json.Fault

/-!
# Reading JSON strings and passing over values

The reader works on octets from left to right. It needs two things of a JSON text: the characters
of a string, and the way past a value that nobody asks for. A value that is passed over need not be
valid UTF-8 and may be nested as deeply as it likes, so open brackets are kept in a list.

The `_length` lemmas say that every step leaves fewer octets than it found.
-/

namespace JobsGateway.Json

/-- The blanks between the parts of a JSON text. -/
def isSpace (b : UInt8) : Bool :=
  b == 0x20 || b == 0x0A || b == 0x09 || b == 0x0D

/-- What is left after the blanks at the front. -/
def skipSpace (s : Bytes) : Bytes :=
  s.dropWhile isSpace

theorem skipSpace_length (s : Bytes) : (skipSpace s).length ≤ s.length :=
  (List.dropWhile_sublist isSpace).length_le

theorem lt_of_skipSpace_cons {s rest : Bytes} {b : UInt8} (h : skipSpace s = b :: rest) :
    rest.length < s.length := by
  have hs := skipSpace_length s
  simp only [h, List.length_cons] at hs
  omega

/-- Reads the letters of a word. -/
def readWord : Bytes → Bytes → Except Fault Bytes
  | [], s => .ok s
  | _ :: _, [] => .error (.here .endInValue [])
  | w :: word, b :: rest => if b = w then readWord word rest else .error (.here .expectedWord rest)

theorem readWord_length {word s rest : Bytes} (h : readWord word s = .ok rest) :
    rest.length ≤ s.length := by
  fun_induction readWord word s with
  | case1 s => simp_all
  | case2 => simp at h
  | case3 word b s ih => exact Nat.le_succ_of_le (ih h)
  | case4 => simp at h

/-! ## Strings -/

/-- The value of a hexadecimal digit. -/
def hexDigit? (b : UInt8) : Option Nat :=
  Text.digitIn? 16 (Char.ofNat b.toNat)

/-- The number of four hexadecimal digits. -/
def hexNumber? (a b c d : UInt8) : Option Nat := do
  pure (((← hexDigit? a) * 16 + (← hexDigit? b)) * 256 + (← hexDigit? c) * 16 + (← hexDigit? d))

/-- Reads four hexadecimal digits. -/
def readHex : Bytes → Except Fault (Nat × Bytes)
  | a :: b :: c :: d :: rest =>
    match hexNumber? a b c d with
    | some n => .ok (n, rest)
    | none => .error (.here .invalidEscape rest)
  | _ => .error (.here .endInString [])

theorem readHex_length {s rest : Bytes} {n : Nat} (h : readHex s = .ok (n, rest)) :
    rest.length < s.length := by
  unfold readHex at h
  split at h
  · split at h
    · simp only [Except.ok.injEq, Prod.mk.injEq] at h
      simp only [← h.2, List.length_cons]
      omega
    · simp at h
  · simp at h

/-- A surrogate that opens a pair. -/
def isLeading (n : Nat) : Bool := 0xD800 ≤ n && n ≤ 0xDBFF

/-- A surrogate that closes a pair. -/
def isTrailing (n : Nat) : Bool := 0xDC00 ≤ n && n ≤ 0xDFFF

/-- The character that a pair of surrogates stands for. -/
def ofSurrogates (leading trailing : Nat) : Char :=
  Char.ofNat (0x10000 + (leading - 0xD800) * 0x400 + (trailing - 0xDC00))

/-- Reads the second half of a pair of surrogates. -/
def readTrailing (leading : Nat) : Bytes → Except Fault (Char × Bytes)
  | [] => .error (.here .endInString [])
  | 0x5C :: 0x75 :: rest => do
    let (n, rest) ← readHex rest
    if isTrailing n then pure (ofSurrogates leading n, rest)
    else throw (.here .loneSurrogate rest)
  | [0x5C] => .error (.here .endInString [])
  | 0x5C :: _ :: rest => .error (.here .unfinishedSurrogates rest)
  | _ :: rest => .error (.here .unfinishedSurrogates rest)

theorem readTrailing_length {leading : Nat} {s rest : Bytes} {c : Char}
    (h : readTrailing leading s = .ok (c, rest)) : rest.length < s.length := by
  unfold readTrailing at h
  split at h
  · simp at h
  · rename_i tail
    cases hx : readHex tail with
    | error e => simp [hx, bind, Except.bind] at h
    | ok p =>
      obtain ⟨n, r⟩ := p
      have := readHex_length hx
      simp only [hx, bind, Except.bind] at h
      split at h
      · simp only [pure, Except.pure, Except.ok.injEq, Prod.mk.injEq] at h
        simp only [← h.2, List.length_cons]
        omega
      · simp [throw, throwThe, MonadExceptOf.throw] at h
  · simp at h
  · simp at h
  · simp at h

/-- Reads the digits of a `\u` escape, and the second escape of a pair. -/
def readUnicode (s : Bytes) : Except Fault (Char × Bytes) :=
  match readHex s with
  | .error e => .error e
  | .ok (n, rest) =>
    if isTrailing n then .error (.here .loneSurrogate rest)
    else if isLeading n then readTrailing n rest
    else .ok (Char.ofNat n, rest)

theorem readUnicode_length {s rest : Bytes} {c : Char} (h : readUnicode s = .ok (c, rest)) :
    rest.length < s.length := by
  unfold readUnicode at h
  split at h
  · simp at h
  · rename_i n r hx
    have hlen := readHex_length hx
    split at h
    · simp at h
    · split at h
      · exact Nat.lt_trans (readTrailing_length h) hlen
      · simp only [Except.ok.injEq, Prod.mk.injEq] at h
        exact h.2 ▸ hlen

/-- The character of an escape that is one letter. -/
def letterEscape? (b : UInt8) : Option Char :=
  if b = 0x22 then some '"'
  else if b = 0x5C then some '\\'
  else if b = 0x2F then some '/'
  else if b = 0x62 then some '\x08'
  else if b = 0x66 then some '\x0c'
  else if b = 0x6E then some '\n'
  else if b = 0x72 then some '\r'
  else if b = 0x74 then some '\t'
  else none

/-- Reads an escape after its backslash. -/
def readEscape : Bytes → Except Fault (Char × Bytes)
  | [] => .error (.here .endInString [])
  | b :: rest =>
    if b = 0x75 then readUnicode rest
    else match letterEscape? b with
      | some c => .ok (c, rest)
      | none => .error (.here .invalidEscape rest)

theorem readEscape_length {s rest : Bytes} {c : Char} (h : readEscape s = .ok (c, rest)) :
    rest.length < s.length := by
  unfold readEscape at h
  split at h
  · simp at h
  · split at h
    · exact Nat.lt_succ_of_lt (readUnicode_length h)
    · split at h
      · simp only [Except.ok.injEq, Prod.mk.injEq] at h
        simp [← h.2]
      · simp at h

/-- Reads the inside of a string up to its closing quote: the octets it stands for, and what
follows. -/
def readOctets (s : Bytes) : Except Fault (Bytes × Bytes) :=
  match s with
  | [] => .error (.here .endInString [])
  | b :: rest =>
    if b = 0x22 then .ok ([], rest)
    else if b = 0x5C then
      match _h : readEscape rest with
      | .error e => .error e
      | .ok (c, rest) =>
        match readOctets rest with
        | .error e => .error e
        | .ok (octets, rest) => .ok (String.utf8EncodeChar c ++ octets, rest)
    else if b < 0x20 then .error (.here .controlCharacter rest)
    else
      match readOctets rest with
      | .error e => .error e
      | .ok (octets, rest) => .ok (b :: octets, rest)
termination_by s.length
decreasing_by
  · have := readEscape_length _h
    simp only [List.length_cons]
    omega
  · simp

theorem readOctets_length {s octets rest : Bytes} (h : readOctets s = .ok (octets, rest)) :
    rest.length < s.length := by
  fun_induction readOctets s generalizing octets rest with
  | case1 => simp at h
  | case2 => simp_all
  | case3 => simp at h
  | case4 => simp at h
  | case5 _ _ _ hx _ _ ho _ ih =>
    have := readEscape_length hx
    have := ih ho
    simp only [Except.ok.injEq, Prod.mk.injEq] at h
    simp only [← h.2, List.length_cons]
    omega
  | case6 => simp at h
  | case7 => simp at h
  | case8 b rest' _ _ _ o r' ho ih =>
    have := ih ho
    simp only [Except.ok.injEq, Prod.mk.injEq] at h
    simp only [← h.2, List.length_cons]
    omega

/-- Reads a string after its opening quote. It has to be UTF-8; if it is not, the first octet that
does not fit is to blame. -/
def readText (s : Bytes) : Except Fault (Text × Bytes) :=
  match readOctets s with
  | .error e => .error e
  | .ok (octets, rest) =>
    match Utf8.decode? octets with
    | some text => .ok (text, rest)
    | none =>
      .error (.next .invalidUtf8
        (s.drop (Utf8.validLength (s.take (s.length - rest.length - 1)))))

theorem readText_length {s rest : Bytes} {text : Text} (h : readText s = .ok (text, rest)) :
    rest.length < s.length := by
  unfold readText at h
  split at h
  · simp at h
  · rename_i o r hx
    split at h
    · simp only [Except.ok.injEq, Prod.mk.injEq] at h
      exact h.2 ▸ readOctets_length hx
    · simp at h

/-! ## Passing over a value -/

/-- Passes over an escape after its backslash. Surrogates need no partner here. -/
def skipEscape : Bytes → Except Fault Bytes
  | [] => .error (.here .endInString [])
  | b :: rest =>
    if b = 0x75 then (readHex rest).map Prod.snd
    else if (letterEscape? b).isSome then .ok rest
    else .error (.here .invalidEscape rest)

theorem skipEscape_length {s rest : Bytes} (h : skipEscape s = .ok rest) :
    rest.length < s.length := by
  unfold skipEscape at h
  split at h
  · simp at h
  · rename_i b tail
    split at h
    · cases hx : readHex tail with
      | error e => simp [hx, Except.map] at h
      | ok p =>
        obtain ⟨_, _⟩ := p
        have := readHex_length hx
        simp only [hx, Except.map, Except.ok.injEq] at h
        simp only [← h, List.length_cons]
        omega
    · split at h
      · simp_all
      · simp at h

/-- Passes over a string after its opening quote. -/
def skipText (s : Bytes) : Except Fault Bytes :=
  match s with
  | [] => .error (.here .endInString [])
  | b :: rest =>
    if b = 0x22 then .ok rest
    else if b = 0x5C then
      match _h : skipEscape rest with
      | .error e => .error e
      | .ok rest => skipText rest
    else if b < 0x20 then .error (.here .controlCharacter (b :: rest))
    else skipText rest
termination_by s.length
decreasing_by
  · have := skipEscape_length _h
    simp only [List.length_cons]
    omega
  · simp

theorem skipText_length {s rest : Bytes} (h : skipText s = .ok rest) : rest.length < s.length := by
  fun_induction skipText s generalizing rest with
  | case1 => simp at h
  | case2 => simp_all
  | case3 => simp at h
  | case4 _ _ hx _ ih =>
    have := skipEscape_length hx
    have := ih h
    simp only [List.length_cons]
    omega
  | case5 => simp at h
  | case6 b tail _ _ _ ih =>
    have := ih h
    simp only [List.length_cons]
    omega

/-- A decimal digit. -/
def isDigit (b : UInt8) : Bool :=
  0x30 ≤ b && b ≤ 0x39

/-- What is left after the digits at the front. -/
def skipDigits (s : Bytes) : Bytes :=
  s.dropWhile isDigit

theorem skipDigits_length (s : Bytes) : (skipDigits s).length ≤ s.length :=
  (List.dropWhile_sublist isDigit).length_le

/-- The octets without a sign at the front. -/
def skipSign : Bytes → Bytes
  | b :: rest => if b = 0x2B || b = 0x2D then rest else b :: rest
  | [] => []

theorem skipSign_length (s : Bytes) : (skipSign s).length ≤ s.length := by
  unfold skipSign
  split
  · split <;> simp
  · simp

/-- Whether an octet opens an exponent. -/
def isExponentMark (b : UInt8) : Bool :=
  b == 0x65 || b == 0x45

/-- Passes over an exponent after its letter. -/
def skipExponent (s : Bytes) : Except Fault Bytes :=
  match skipSign s with
  | [] => .error (.here .invalidNumber [])
  | b :: rest =>
    if isDigit b then .ok (skipDigits rest) else .error (.here .invalidNumber rest)

theorem skipExponent_length {s rest : Bytes} (h : skipExponent s = .ok rest) :
    rest.length ≤ s.length := by
  unfold skipExponent at h
  have hs := skipSign_length s
  split at h
  · simp at h
  · rename_i b tail hb
    split at h
    · simp only [Except.ok.injEq] at h
      have := skipDigits_length tail
      simp only [hb, List.length_cons] at hs
      simp only [← h]
      omega
    · simp at h

/-- Passes over the exponent, if there is one. -/
def skipExponentPart : Bytes → Except Fault Bytes
  | [] => .ok []
  | b :: rest => if isExponentMark b then skipExponent rest else .ok (b :: rest)

theorem skipExponentPart_length {s rest : Bytes} (h : skipExponentPart s = .ok rest) :
    rest.length ≤ s.length := by
  unfold skipExponentPart at h
  split at h
  · simp_all
  · split at h
    · exact Nat.le_succ_of_le (skipExponent_length h)
    · simp_all

/-- Passes over what may follow the whole digits of a number: a fraction and an exponent. -/
def skipFraction : Bytes → Except Fault Bytes
  | [] => .ok []
  | b :: rest =>
    if b = 0x2E then
      if (skipDigits rest).length = rest.length then .error (.next .invalidNumber rest)
      else skipExponentPart (skipDigits rest)
    else skipExponentPart (b :: rest)

theorem skipFraction_length {s rest : Bytes} (h : skipFraction s = .ok rest) :
    rest.length ≤ s.length := by
  unfold skipFraction at h
  split at h
  · simp_all
  · rename_i b tail
    split at h
    · split at h
      · simp at h
      · have := skipExponentPart_length h
        have := skipDigits_length tail
        simp only [List.length_cons]
        omega
    · exact skipExponentPart_length h

/-- Passes over a number after its sign. -/
def skipNumber : Bytes → Except Fault Bytes
  | [] => .error (.here .invalidNumber [])
  | b :: rest =>
    if b = 0x30 then
      if rest.head?.any isDigit then .error (.next .invalidNumber rest) else skipFraction rest
    else if isDigit b then skipFraction (skipDigits rest)
    else .error (.here .invalidNumber rest)

theorem skipNumber_length {s rest : Bytes} (h : skipNumber s = .ok rest) :
    rest.length < s.length := by
  unfold skipNumber at h
  split at h
  · simp at h
  · rename_i b tail
    split at h
    · split at h
      · simp at h
      · exact Nat.lt_succ_of_le (skipFraction_length h)
    · split at h
      · have := skipFraction_length h
        have := skipDigits_length tail
        simp only [List.length_cons]
        omega
      · simp at h

/-- Passes over a value that has no brackets. -/
def skipScalar (b : UInt8) (rest : Bytes) : Except Fault Bytes :=
  if b = 0x6E then readWord (octets "ull") rest
  else if b = 0x74 then readWord (octets "rue") rest
  else if b = 0x66 then readWord (octets "alse") rest
  else if b = 0x2D then skipNumber rest
  else if isDigit b then skipNumber (b :: rest)
  else if b = 0x22 then skipText rest
  else .error (.next .expectedValue (b :: rest))

theorem skipScalar_length {b : UInt8} {s rest : Bytes} (h : skipScalar b s = .ok rest) :
    rest.length ≤ s.length := by
  unfold skipScalar at h
  split at h
  · exact readWord_length h
  split at h
  · exact readWord_length h
  split at h
  · exact readWord_length h
  split at h
  · exact Nat.le_of_lt (skipNumber_length h)
  split at h
  · exact Nat.le_of_lt_succ (skipNumber_length h)
  split at h
  · exact Nat.le_of_lt (skipText_length h)
  · simp at h

/-- An open bracket. -/
inductive Bracket where
  | list
  | object
  deriving Repr, DecidableEq

/-- The octet that closes a bracket. -/
def Bracket.closing : Bracket → UInt8
  | .list => 0x5D
  | .object => 0x7D

/-- The problem of a text that ends inside a bracket. -/
def Bracket.endProblem : Bracket → Problem
  | .list => .endInList
  | .object => .endInObject

/-- The problem of an item that neither a comma nor the closing bracket follows. -/
def Bracket.itemProblem : Bracket → Problem
  | .list => .expectedListEnd
  | .object => .expectedObjectEnd

/-- Passes over a key and the colon after it. -/
def skipKey (s : Bytes) : Except Fault Bytes :=
  match skipSpace s with
  | [] => .error (.next .endInObject [])
  | b :: rest =>
    if b = 0x22 then
      match skipText rest with
      | .error e => .error e
      | .ok rest =>
        match skipSpace rest with
        | [] => .error (.next .endInObject [])
        | b :: rest => if b = 0x3A then .ok rest else .error (.next .expectedColon (b :: rest))
    else .error (.next .keyNotString (b :: rest))

theorem skipKey_length {s rest : Bytes} (h : skipKey s = .ok rest) : rest.length < s.length := by
  unfold skipKey at h
  have hs := skipSpace_length s
  split at h
  · simp at h
  · rename_i b tail hb
    simp only [hb, List.length_cons] at hs
    split at h
    · split at h
      · simp at h
      · rename_i r hx
        have h1 := skipText_length hx
        have h2 := skipSpace_length r
        split at h
        · simp at h
        · rename_i b' tail' hb'
          simp only [hb', List.length_cons] at h2
          split at h
          · simp only [Except.ok.injEq] at h
            simp only [← h]
            omega
          · simp at h
    · simp at h

/-- What comes next while a value is passed over: the value itself, the first item or the end of
the innermost bracket, a further item, or what follows an item. -/
inductive Awaiting where
  | value
  | firstItem
  | item
  | following
  deriving Repr, DecidableEq

/-- A number that falls where a step reads nothing. -/
def Awaiting.rank : Awaiting → Nat
  | .value => 0
  | .item => 1
  | .firstItem => 2
  | .following => 0

/-- Passes over a value and then over what the open brackets around it still ask for. The brackets
are listed from the inside. -/
def skip (awaiting : Awaiting) (brackets : List Bracket) (s : Bytes) : Except Fault Bytes :=
  match awaiting, brackets with
  | .value, _ =>
    match _h : skipSpace s with
    | [] => .error (.next .endInValue [])
    | b :: rest =>
      if b = 0x5B then skip .firstItem (.list :: brackets) rest
      else if b = 0x7B then skip .firstItem (.object :: brackets) rest
      else
        match _hx : skipScalar b rest with
        | .error e => .error e
        | .ok rest => skip .following brackets rest
  | _, [] => .ok s
  | .firstItem, bracket :: outer =>
    match _h : skipSpace s with
    | [] => .error (.next bracket.endProblem [])
    | b :: rest =>
      if b = bracket.closing then skip .following outer rest
      else skip .item (bracket :: outer) s
  | .item, bracket :: outer =>
    match bracket with
    | .list => skip .value (bracket :: outer) s
    | .object =>
      match _h : skipKey s with
      | .error e => .error e
      | .ok rest => skip .value (bracket :: outer) rest
  | .following, bracket :: outer =>
    match _h : skipSpace s with
    | [] => .error (.next bracket.endProblem [])
    | b :: rest =>
      if b = 0x2C then skip .item (bracket :: outer) rest
      else if b = bracket.closing then skip .following outer rest
      else .error (.next bracket.itemProblem (b :: rest))
termination_by (s.length, awaiting.rank)
decreasing_by
  · exact .left _ _ (lt_of_skipSpace_cons _h)
  · exact .left _ _ (lt_of_skipSpace_cons _h)
  · exact .left _ _ (Nat.lt_of_le_of_lt (skipScalar_length _hx) (lt_of_skipSpace_cons _h))
  · exact .left _ _ (lt_of_skipSpace_cons _h)
  · exact .right _ (by decide)
  · exact .right _ (by decide)
  · exact .left _ _ (skipKey_length _h)
  · exact .left _ _ (lt_of_skipSpace_cons _h)
  · exact .left _ _ (lt_of_skipSpace_cons _h)

theorem skip_length {awaiting : Awaiting} {brackets : List Bracket} {s rest : Bytes}
    (h : skip awaiting brackets s = .ok rest) : rest.length ≤ s.length := by
  fun_induction skip awaiting brackets s with
  | case1 => simp at h
  | case2 brackets s tail hb ih =>
    have hs := skipSpace_length s
    simp only [hb, List.length_cons] at hs
    have := ih h
    omega
  | case3 brackets s tail hb _ ih =>
    have hs := skipSpace_length s
    simp only [hb, List.length_cons] at hs
    have := ih h
    omega
  | case4 => simp at h
  | case5 brackets s b tail hb _ _ r hx ih =>
    have hs := skipSpace_length s
    simp only [hb, List.length_cons] at hs
    have := skipScalar_length hx
    have := ih h
    omega
  | case6 => simp_all
  | case7 => simp at h
  | case8 s bracket outer tail hb ih =>
    have hs := skipSpace_length s
    simp only [hb, List.length_cons] at hs
    have := ih h
    omega
  | case9 s bracket outer b tail hb _ ih => exact ih h
  | case10 s outer ih => exact ih h
  | case11 => simp at h
  | case12 s outer r hx ih =>
    have := skipKey_length hx
    have := ih h
    omega
  | case13 => simp at h
  | case14 s bracket outer tail hb ih =>
    have hs := skipSpace_length s
    simp only [hb, List.length_cons] at hs
    have := ih h
    omega
  | case15 s bracket outer tail hb _ ih =>
    have hs := skipSpace_length s
    simp only [hb, List.length_cons] at hs
    have := ih h
    omega
  | case16 => simp at h

/-- Passes over one value. -/
def skipValue (s : Bytes) : Except Fault Bytes :=
  skip .value [] s

theorem skipValue_length {s rest : Bytes} (h : skipValue s = .ok rest) :
    rest.length ≤ s.length :=
  skip_length h

end JobsGateway.Json
