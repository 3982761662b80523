import JobsGateway.Proofs.Client.Number
import JobsGateway.Proofs.Client.Reply

/-!
# What is written is read back

A peer writes a status, fields and a body. It may tell the length of the body,
cut the body into chunks, or close the connection at its end. Each of these
texts is a whole reply, and the reply has that status, those fields beside the
one that frames it, and that body.
-/

namespace JobsGateway

/-- A character of a field name as it is held: it may stand in a name, and is in
lower case. -/
def isNameChar (c : Char) : Bool :=
  c.toNat < 0x80 && Reply.isNameOctet (UInt8.ofNat c.toNat) && c.toLower = c

/-- A field that can be written: neither its name nor its value holds anything
that would end it. -/
structure Field.IsWritable (f : Field) : Prop where
  named : f.name ≠ []
  name : ∀ c ∈ f.name, isNameChar c = true
  value : ∀ b ∈ f.value, isFieldOctet b = true

/-- Each character and each octet is looked at once. -/
instance (f : Field) : Decidable f.IsWritable :=
  decidable_of_iff
    (f.name ≠ [] ∧ f.name.all isNameChar = true ∧ f.value.all isFieldOctet = true)
    ⟨fun ⟨named, name, value⟩ =>
      ⟨named, List.all_eq_true.mp name, List.all_eq_true.mp value⟩,
    fun h => ⟨h.named, List.all_eq_true.mpr h.name, List.all_eq_true.mpr h.value⟩⟩

/-- A field as it is read, without the blanks around its value. -/
def Field.trimmed (f : Field) : Field :=
  { f with value := Reply.trimBlanks f.value }

theorem Fields.values_map_trimmed (fields : Fields) (name : Text) :
    Fields.values (fields.map Field.trimmed) name =
      (fields.values name).map Reply.trimBlanks := by
  induction fields with
  | nil => rfl
  | cons f fields ih =>
      rw [List.map_cons, values_cons, values_cons, ih]
      show (if f.name = name then f.trimmed.value :: _ else _) = _
      by_cases hname : f.name = name
      · rw [if_pos hname, if_pos hname, List.map_cons]
        rfl
      · rw [if_neg hname, if_neg hname]

namespace Reply

/-! ## Fields -/

theorem trimBlanks_cons {b : UInt8} (h : isBlank b = true) (value : Bytes) :
    trimBlanks (b :: value) = trimBlanks value := by
  rw [trimBlanks, List.dropWhile_cons_of_pos h]
  rfl

/-- **A field that is written is a field line,** and is read without the blanks
around its value. -/
theorem fieldLine_writeField {f : Field} (h : f.IsWritable) :
    FieldLine (writeField f) f.trimmed := by
  have hname : ∀ c ∈ f.name, c.toNat < 0x80 ∧ isNameOctet (UInt8.ofNat c.toNat) = true ∧
      c.toLower = c := by
    intro c hc
    simpa [isNameChar, and_assoc] using h.name c hc
  have hascii : ∀ c ∈ f.name, c.toNat < 0x80 := fun c hc => (hname c hc).1
  have hoctets : ∀ b ∈ Utf8.encode f.name, isNameOctet b = true := by
    intro b hb
    obtain ⟨c, hc, rfl⟩ := Utf8.mem_encode_of_ascii hascii hb
    exact (hname c hc).2.1
  have hnonempty : Utf8.encode f.name ≠ [] := by
    obtain ⟨c, rest, hcons⟩ := List.exists_cons_of_ne_nil h.named
    rw [hcons, Utf8.encode_cons_of_ascii (hascii c (by simp [hcons]))]
    exact List.cons_ne_nil _ _
  have hlower : f.name.map Char.toLower = f.name :=
    (List.map_congr_left fun c hc => (hname c hc).2.2).trans (List.map_id f.name)
  have hvalue : ∀ b ∈ 0x20 :: f.value, isFieldOctet b = true :=
    List.forall_mem_cons.mpr ⟨by decide, h.value⟩
  have hline := FieldLine.mk hnonempty hoctets hvalue .returnFeed
  rw [charsOf_encode_of_ascii hascii, Field.of, hlower, trimBlanks_cons (by decide)] at hline
  have htext : writeField f = Utf8.encode f.name ++ 0x3A :: (0x20 :: f.value) ++ [0x0D, 0x0A] := by
    have hcolon : octets ": " = [0x3A, 0x20] := by decide
    have hend : octets "\r\n" = [0x0D, 0x0A] := by decide
    rw [writeField, hcolon, hend]
    simp
  rw [htext]
  exact hline

theorem fieldBlock_write {fields : Fields} (h : ∀ f ∈ fields, f.IsWritable) :
    FieldBlock (fields.flatMap writeField ++ octets "\r\n") (fields.map Field.trimmed) := by
  induction fields with
  | nil => exact .last .returnFeed
  | cons f fields ih =>
      obtain ⟨hf, hfields⟩ := List.forall_mem_cons.mp h
      rw [List.flatMap_cons, List.append_assoc, List.map_cons]
      exact .field (fieldLine_writeField hf) (ih hfields)

/-! ## Heads -/

theorem isDigit_digitChar {d : Nat} (h : d < 10) :
    isDigit (UInt8.ofNat (Nat.digitChar d).toNat) = true ∧
      (UInt8.ofNat (Nat.digitChar d).toNat).toNat - 48 = d := by
  have hall : ∀ k : Fin 10, isDigit (UInt8.ofNat (Nat.digitChar k).toNat) = true ∧
      (UInt8.ofNat (Nat.digitChar k).toNat).toNat - 48 = k := by decide
  exact hall ⟨d, h⟩

/-- A status of three digits is written as the three octets that it is read
from. -/
theorem exists_code {n : Nat} (hlow : 100 ≤ n) (hhigh : n < 1000) :
    ∃ a b c, isDigit a = true ∧ isDigit b = true ∧ isDigit c = true ∧
      numberOctets n = [a, b, c] ∧ codeOf a b c = n := by
  have hdigits : Text.digits n =
      [Nat.digitChar (n / 10 / 10), Nat.digitChar (n / 10 % 10), Nat.digitChar (n % 10)] := by
    rw [Text.digits, Nat.toDigits_of_base_le (by omega) (by omega),
      Nat.toDigits_of_base_le (by omega) (by omega), Nat.toDigits_of_lt_base (by omega)]
    rfl
  have hascii : ∀ c ∈ Text.digits n, c.toNat < 0x80 := fun c hc =>
    Text.lt_of_isDigit (Text.isDigit_of_mem_digits hc)
  obtain ⟨ha, hna⟩ := isDigit_digitChar (d := n / 10 / 10) (by omega)
  obtain ⟨hb, hnb⟩ := isDigit_digitChar (d := n / 10 % 10) (by omega)
  obtain ⟨hc, hnc⟩ := isDigit_digitChar (d := n % 10) (by omega)
  refine ⟨_, _, _, ha, hb, hc, ?_, ?_⟩
  · rw [hdigits] at hascii
    obtain ⟨ha, hb, hc, -⟩ : _ ∧ _ ∧ _ ∧ True := by simpa using hascii
    rw [numberOctets, hdigits, Utf8.encode_cons_of_ascii ha, Utf8.encode_cons_of_ascii hb,
      Utf8.encode_cons_of_ascii hc]
    rfl
  · rw [codeOf, hna, hnb, hnc]
    omega

/-- A head that can be written: a status of three digits, a phrase on one line,
and not too many fields. -/
structure WritableHead (status : Status) (reason : String) (fields : Fields) : Prop where
  low : 100 ≤ status.code
  high : status.code < 1000
  phrase : ∀ b ∈ octets reason, isFieldOctet b = true
  writable : ∀ f ∈ fields, f.IsWritable
  room : fields.length ≤ fieldLimit

/-- **A head that is written is a head,** with the fields as they are read. -/
theorem headText_writeHead {status : Status} {reason : String} {fields : Fields}
    (h : WritableHead status reason fields) :
    HeadText (writeHead status reason fields) ⟨true, status, fields.map Field.trimmed⟩ := by
  obtain ⟨a, b, c, ha, hb, hc, hnumber, hcode⟩ := exists_code h.low h.high
  have htext : writeHead status reason fields =
      [] ++ versionText true ++ 0x20 :: a :: b :: c :: (0x20 :: octets reason ++ [0x0D, 0x0A]) ++
        (fields.flatMap writeField ++ octets "\r\n") := by
    have hversion : octets "HTTP/1.1 " = versionText true ++ [0x20] := by decide
    have hspace : octets " " = [0x20] := by decide
    have hend : octets "\r\n" = [0x0D, 0x0A] := by decide
    rw [writeHead, hnumber, hversion, hspace, hend]
    simp
  have hcount : (fields.map Field.trimmed).length ≤ fieldLimit := by
    rw [List.length_map]
    exact h.room
  have hhead : HeadText _ ⟨true, ⟨codeOf a b c⟩, fields.map Field.trimmed⟩ :=
    .mk .none ha hb hc (hcode.symm ▸ h.low) (.phrase h.phrase .returnFeed)
      (fieldBlock_write h.writable) hcount
  rw [hcode] at hhead
  rw [htext]
  exact hhead

/-! ## Chunks -/

theorem sizeLine_hexDigits {n : Nat} (h : n < Text.word) :
    SizeLine (Utf8.encode (Text.hexDigits n) ++ octets "\r\n") n 0 := by
  have hall : ∀ c ∈ "0123456789abcdef".toList, decide (c.toNat < 0x80) = true :=
    List.all_eq_true.mp (by decide)
  have hascii : ∀ c ∈ Text.hexDigits n, c.toNat < 0x80 := fun c hc =>
    of_decide_eq_true (hall c (Text.mem_of_mem_hexDigits hc))
  have hnumber : Text.natural? 16 (charsOf (Utf8.encode (Text.hexDigits n))) = some n := by
    rw [charsOf_encode_of_ascii hascii, Text.natural?_hexDigits]
  have hline : SizeLine (_ ++ [] ++ [0x0D, 0x0A]) n 0 := .mk hnumber h (by simp) .plain
  rw [List.append_nil] at hline
  exact hline

theorem chunked_end : Chunked (octets "0\r\n\r\n") [] 0 := by
  have htrailer : Trailer ([0x0D, 0x0A] ++ []) :=
    .mk .last (by decide) (by decide) (.last .returnFeed) (Nat.le_refl 0)
  have hline : SizeLine (Utf8.encode (Text.hexDigits 0) ++ octets "\r\n") 0 0 :=
    sizeLine_hexDigits (by decide)
  have htext : octets "0\r\n\r\n" =
      Utf8.encode (Text.hexDigits 0) ++ octets "\r\n" ++ ([0x0D, 0x0A] ++ []) := by decide
  rw [htext]
  exact .last hline htrailer

/-- **Chunks that are written are a chunked body,** which carries their data. -/
theorem chunked_writeChunks {chunks : List Bytes}
    (h : ∀ data ∈ chunks, data ≠ [] ∧ data.length < Text.word) :
    Chunked (writeChunks chunks) chunks.flatten 0 := by
  induction chunks with
  | nil => exact chunked_end
  | cons data chunks ih =>
      obtain ⟨⟨hdata, hlength⟩, hchunks⟩ := List.forall_mem_cons.mp h
      have htext : writeChunks (data :: chunks) =
          Utf8.encode (Text.hexDigits data.length) ++ octets "\r\n" ++ data ++
            0x0D :: 0x0A :: writeChunks chunks := by
        have hend : octets "\r\n" = [0x0D, 0x0A] := by decide
        rw [writeChunks, writeChunks, List.flatMap_cons, writeChunk, hend]
        simp
      rw [htext, List.flatten_cons]
      exact .chunk hdata (sizeLine_hexDigits hlength) (ih hchunks)

/-! ## Whole replies -/

/-- The field that tells the length of a body. -/
def lengthField (n : Nat) : Field :=
  ⟨FieldName.contentLength, numberOctets n⟩

/-- The field that says that a body comes in chunks. -/
def chunkedField : Field :=
  ⟨FieldName.transferEncoding, octets "chunked"⟩

/-- The ways to write a body after a head: with its length, in chunks, or up to
the end of the connection. A peer may leave off in any way after a body of the
first two kinds. -/
inductive Written (status : Status) (reason : String) (fields : Fields) (body : Bytes) :
    Bytes → Parting → Prop
  | length {parting : Parting} : Written status reason fields body
      (writeHead status reason (fields ++ [lengthField body.length]) ++ body) parting
  | chunked {parting : Parting} {chunks : List Bytes} : (∀ data ∈ chunks, data ≠ []) →
      chunks.flatten = body → Written status reason fields body
        (writeHead status reason (fields ++ [chunkedField]) ++ writeChunks chunks) parting
  | untilClose : Written status reason fields body
      (writeHead status reason fields ++ body) .closes

/-- What is read of fields and one more under another name. -/
theorem values_map_append_of_ne (fields : Fields) {f : Field} {name : Text} (h : f.name ≠ name) :
    Fields.values ((fields ++ [f]).map Field.trimmed) name =
      (fields.values name).map trimBlanks := by
  rw [Fields.values_map_trimmed, Fields.values_append, Fields.values_cons, if_neg h,
    Fields.values_nil, List.append_nil]

/-- What is read of fields and one more under a name that is new. -/
theorem values_map_append_self {fields : Fields} {f : Field} (h : fields.values f.name = []) :
    Fields.values ((fields ++ [f]).map Field.trimmed) f.name = [trimBlanks f.value] := by
  rw [Fields.values_map_trimmed, Fields.values_append, Fields.values_cons, if_pos rfl, h]
  rfl

theorem isWritable_lengthField (n : Nat) : (lengthField n).IsWritable where
  named := by
    show FieldName.contentLength ≠ []
    decide
  name := by
    show ∀ c ∈ FieldName.contentLength, isNameChar c = true
    exact List.all_eq_true.mp (by decide)
  value := by
    intro b hb
    have hascii : ∀ c ∈ Text.digits n, c.toNat < 0x80 := fun c hc =>
      Text.lt_of_isDigit (Text.isDigit_of_mem_digits hc)
    obtain ⟨c, hc, rfl⟩ := Utf8.mem_encode_of_ascii hascii hb
    obtain ⟨d, hd, rfl⟩ := Text.exists_digit_of_mem_toDigits (by omega) hc
    have hall : ∀ k : Fin 10, isFieldOctet (UInt8.ofNat (Nat.digitChar k).toNat) = true := by
      decide
    exact hall ⟨d, hd⟩

/-- A head that can be written around a body: no field of it says how the body is
framed, there is room for one that does, and the body is not too long to tell its
length. -/
structure WritableReply (method : Text) (status : Status) (reason : String) (fields : Fields)
    (body : Bytes) : Prop where
  head : WritableHead status reason fields
  final : 200 ≤ status.code
  bodied : isBodiless method status = false
  unframed : ∀ f ∈ fields, f.name ≠ FieldName.contentLength ∧ f.name ≠ FieldName.transferEncoding
  room : fields.length < fieldLimit
  size : body.length < lengthLimit

namespace WritableReply

variable {method : Text} {status : Status} {reason : String} {fields : Fields} {body : Bytes}

/-- One more field can be written with the others. -/
theorem head_append (h : WritableReply method status reason fields body) {f : Field}
    (hf : f.IsWritable) : WritableHead status reason (fields ++ [f]) where
  low := h.head.low
  high := h.head.high
  phrase := h.head.phrase
  writable := by
    intro g hg
    rcases List.mem_append.mp hg with hg | hg
    · exact h.head.writable g hg
    · rw [List.mem_singleton.mp hg]
      exact hf
  room := by
    rw [List.length_append]
    exact h.room

theorem finalHead (h : WritableReply method status reason fields body) {all : Fields}
    (hall : WritableHead status reason all) :
    FinalHead (writeHead status reason all) ⟨true, status, all.map Field.trimmed⟩ := by
  have hfinal : isInformational status = false := by
    have hcode : ¬ status.code < 200 := Nat.not_lt_of_le h.final
    rw [isInformational, decide_eq_false hcode, Bool.false_and]
  exact .final (headText_writeHead hall) hfinal

/-- The fields of the reply say nothing of its framing. -/
theorem values_of_framing (h : WritableReply method status reason fields body) {name : Text}
    (hname : name = FieldName.contentLength ∨ name = FieldName.transferEncoding) :
    fields.values name = [] := by
  rw [Fields.values_eq_nil_iff]
  intro f hf
  obtain ⟨hlength, hcoding⟩ := h.unframed f hf
  rcases hname with rfl | rfl
  · exact hlength
  · exact hcoding

theorem frames_length (h : WritableReply method status reason fields body) :
    Frames method ⟨true, status, (fields ++ [lengthField body.length]).map Field.trimmed⟩
      (.length body.length) := by
  obtain ⟨hitems, htrim⟩ := items_of_number (natural?_numberOctets body.length)
  have hvalues : Fields.values ((fields ++ [lengthField body.length]).map Field.trimmed)
      FieldName.contentLength = [numberOctets body.length] :=
    (values_map_append_self (h.values_of_framing (Or.inl rfl))).trans (congrArg ([·]) htrim)
  have hplain : Fields.values ((fields ++ [lengthField body.length]).map Field.trimmed)
      FieldName.transferEncoding = [] := by
    have hne : (lengthField body.length).name ≠ FieldName.transferEncoding := by
      show FieldName.contentLength ≠ FieldName.transferEncoding
      decide
    rw [values_map_append_of_ne fields hne, h.values_of_framing (Or.inr rfl)]
    rfl
  have hnumber : length? (numberOctets body.length) = some body.length := by
    have hword : body.length < Text.word := Nat.lt_of_lt_of_le h.size (Nat.sub_le ..)
    rw [length?, natural?_numberOctets]
    exact Option.filter_eq_some_iff.mpr ⟨rfl, decide_eq_true hword⟩
  refine .length h.bodied hplain ?_ ?_ h.size
  · rw [hvalues]
    exact List.cons_ne_nil _ _
  · rw [hvalues]
    intro v hv i hi
    rw [List.mem_singleton.mp hv, hitems, List.mem_singleton] at hi
    rw [hi, htrim, hnumber]

theorem frames_chunked (h : WritableReply method status reason fields body) :
    Frames method ⟨true, status, (fields ++ [chunkedField]).map Field.trimmed⟩ .chunked := by
  have hvalues : Fields.values ((fields ++ [chunkedField]).map Field.trimmed)
      FieldName.transferEncoding = [octets "chunked"] :=
    values_map_append_self (h.values_of_framing (Or.inr rfl))
  refine .chunked h.bodied ?_ rfl ?_
  · rw [hvalues]
    exact List.cons_ne_nil _ _
  · rw [isChunked, hvalues]
    decide

theorem frames_untilClose (h : WritableReply method status reason fields body) :
    Frames method ⟨true, status, fields.map Field.trimmed⟩ .untilClose := by
  have hnone : ∀ name, fields.values name = [] →
      Fields.values (fields.map Field.trimmed) name = [] := by
    intro name hname
    rw [Fields.values_map_trimmed, hname]
    rfl
  exact .untilClose h.bodied (hnone _ (h.values_of_framing (Or.inr rfl)))
    (hnone _ (h.values_of_framing (Or.inl rfl)))

end WritableReply

/-- **What is written is a whole reply,** however its body is framed. -/
theorem exists_received_of_written {method : Text} {status : Status} {reason : String}
    {fields : Fields} {body s : Bytes} {parting : Parting}
    (h : WritableReply method status reason fields body)
    (hs : Written status reason fields body s parting) :
    ∃ reply, Received parting method s reply ∧ reply.status = status ∧ reply.body = body ∧
      ∀ name, name ≠ FieldName.contentLength → name ≠ FieldName.transferEncoding →
        reply.fields.values name = (fields.values name).map trimBlanks := by
  cases hs with
  | length =>
      have hhead := h.finalHead (h.head_append (isWritable_lengthField body.length))
      have hcarries : Carries (.length body.length) (body ++ []) body := .length
      rw [List.append_nil] at hcarries
      refine ⟨_, .mk hhead h.frames_length hcarries (by simp), rfl, rfl, ?_⟩
      intro name hname _
      exact values_map_append_of_ne fields (Ne.symm hname)
  | @chunked _ chunks hchunks hbody =>
      have hwritable : chunkedField.IsWritable := by decide
      have hhead := h.finalHead (h.head_append hwritable)
      -- No chunk is longer than the body, and the body is not too long.
      have hsizes : ∀ data ∈ chunks, data ≠ [] ∧ data.length < Text.word := by
        intro data hdata
        refine ⟨hchunks data hdata, ?_⟩
        have hle : data.length ≤ body.length := by
          rw [← hbody]
          exact (List.sublist_flatten_of_mem hdata).length_le
        exact Nat.lt_of_le_of_lt hle (Nat.lt_of_lt_of_le h.size (Nat.sub_le ..))
      have hcarries : Carries .chunked (writeChunks chunks ++ []) chunks.flatten :=
        .chunked (chunked_writeChunks hsizes) (by decide)
      rw [List.append_nil] at hcarries
      refine ⟨_, .mk hhead h.frames_chunked hcarries (by simp), rfl, hbody, ?_⟩
      intro name _ hname
      exact values_map_append_of_ne fields (Ne.symm hname)
  | untilClose =>
      refine ⟨_, .mk (h.finalHead h.head) h.frames_untilClose .untilClose fun _ => rfl, rfl,
        rfl, ?_⟩
      intro name _ _
      exact Fields.values_map_trimmed fields name

end Reply

end JobsGateway
