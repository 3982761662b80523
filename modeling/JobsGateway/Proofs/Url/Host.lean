import JobsGateway.Proofs.Url.Domain
import JobsGateway.Proofs.Url.Ipv4
import JobsGateway.Proofs.Url.Ipv6
import JobsGateway.Proofs.Url.Percent
import JobsGateway.Url.Parser

/-!
# Hosts of special URLs read back

A host that was read is an IPv6 address, an IPv4 address, or a domain name that
is its own ASCII form. Its text is read as the same host again, and holds no
character that would end the host in a URL.
-/

namespace JobsGateway

/-- A host as the reader of special URLs leaves it. -/
inductive Host.Canonical : Host → Prop where
  | ipv6 {pieces : List Nat} : Ipv6.IsAddress pieces → Canonical (.ipv6 pieces)
  | ipv4 {address : Nat} : address < 4294967296 → Canonical (.ipv4 address)
  | domain {name : Text} : name ≠ [] → Idna.toAscii? name = some name →
      Ipv4.endsInNumber name = false → Canonical (.domain name)

namespace Host

theorem canonical_of_readBracketed {rest : Text} {h : Host} (hr : readBracketed rest = .ok h) :
    h.Canonical := by
  unfold readBracketed at hr
  split at hr
  · split at hr
    · rename_i hpieces
      cases hr
      exact .ipv6 (Ipv6.isAddress_of_read? hpieces)
    · cases hr
  · cases hr

theorem canonical_of_ofAscii {name : Text} {h : Host} (hname : Idna.toAscii? name = some name)
    (hr : ofAscii name = .ok h) : h.Canonical := by
  unfold ofAscii at hr
  split at hr
  · cases hr
  · rename_i hne
    split at hr
    · split at hr
      · rename_i haddress
        cases hr
        exact .ipv4 (Ipv4.lt_of_read? haddress)
      · cases hr
    · rename_i hnumber
      cases hr
      exact .domain hne hname (by simpa using hnumber)

/-- A host that was read is canonical. -/
theorem canonical_of_readSpecial {text : Text} {h : Host} (hr : readSpecial text = .ok h) :
    h.Canonical := by
  unfold readSpecial at hr
  split at hr
  · exact canonical_of_readBracketed hr
  · split at hr
    · rename_i hname
      obtain ⟨domain, -, hname⟩ := Option.bind_eq_some_iff.mp hname
      exact canonical_of_ofAscii (Idna.toAscii?_toAscii? hname) hr
    · cases hr

/-! ## The text of a host -/

/-- The characters that the text of a host may hold. Colons and brackets stand
in IPv6 addresses only. -/
def isTextChar (c : Char) : Bool :=
  Idna.isPlain c || c == ':' || c == '[' || c == ']'

theorem isPlain_of_mem_digits {n : Nat} {c : Char} (h : c ∈ Text.digits n) :
    Idna.isPlain c = true ∧ c ≠ '.' := by
  refine Idna.isPlain_of_isDigitChar ?_
  rw [Punycode.isDigitChar, Text.isDigit_of_mem_digits h, Bool.or_true]

theorem isPlain_of_mem_write {address : Nat} {c : Char} (h : c ∈ Ipv4.write address) :
    Idna.isPlain c = true := by
  rw [Ipv4.write_eq] at h
  rcases Text.mem_intercalate h with rfl | ⟨octet, hoctet, hc⟩
  · decide
  · obtain ⟨n, -, rfl⟩ := List.mem_map.mp hoctet
    exact (isPlain_of_mem_digits hc).1

/-- The text of a host is plain, or stands in brackets and holds no bracket. -/
theorem Canonical.text_cases {h : Host} (hh : h.Canonical) :
    (h.text ≠ [] ∧ ∀ c ∈ h.text, Idna.isPlain c = true) ∨
      ∃ inner, h.text = '[' :: inner ++ [']'] ∧ ∀ c ∈ inner, c ∈ "0123456789abcdef:".toList := by
  cases hh with
  | ipv6 hpieces => exact Or.inr ⟨_, rfl, fun c hc => Ipv6.mem_of_mem_write hc⟩
  | ipv4 haddress =>
      refine Or.inl ⟨?_, fun c hc => isPlain_of_mem_write hc⟩
      simp [text, Ipv4.write]
  | domain hne hname hnumber => exact Or.inl ⟨hne, Idna.plain_of_toAscii? hname⟩

theorem Canonical.isTextChar {h : Host} (hh : h.Canonical) :
    ∀ c ∈ h.text, isTextChar c = true := by
  intro c hc
  rcases hh.text_cases with ⟨-, hplain⟩ | ⟨inner, htext, hinner⟩
  · simp [Host.isTextChar, hplain c hc]
  · rw [htext] at hc
    have hall : ('[' :: "0123456789abcdef:".toList ++ [']']).all Host.isTextChar = true := by
      decide
    refine List.all_eq_true.mp hall c ?_
    simp only [List.cons_append, List.mem_cons, List.mem_append] at hc ⊢
    rcases hc with hc | hc | hc
    · exact Or.inl hc
    · exact Or.inr (Or.inl (hinner c hc))
    · exact Or.inr (Or.inr hc)

theorem Canonical.text_ne_nil {h : Host} (hh : h.Canonical) : h.text ≠ [] := by
  rcases hh.text_cases with ⟨hne, -⟩ | ⟨inner, htext, -⟩
  · exact hne
  · simp [htext]

/-! ## Reading the text again -/

theorem readSpecial_of_plain {name : Text} (hplain : ∀ c ∈ name, Idna.isPlain c = true)
    (hname : Idna.toAscii? name = some name) : readSpecial name = ofAscii name := by
  have hdecode : Utf8.decode? (Percent.decode (Utf8.encode name)) = some name :=
    Percent.decode?_decode_encode (fun c hc => ((Idna.isPlain_iff c).mp (hplain c hc)).1)
      fun hpercent => absurd (hplain '%' hpercent) (by decide)
  unfold readSpecial
  split
  · exact absurd (hplain '[' List.mem_cons_self) (by decide)
  · rw [hdecode, Option.bind_some, hname]

theorem unicodeLabel?_digits (n : Nat) :
    Idna.unicodeLabel? (Text.digits n) = some (Text.digits n) := by
  -- The prefix of a Punycode label begins with a letter.
  refine if_neg fun hbegins => ?_
  obtain ⟨rest, hrest⟩ := List.isPrefixOf_iff_prefix.mp hbegins
  have hx : 'x' ∈ Text.digits n := hrest ▸ List.mem_append_left rest List.mem_cons_self
  exact absurd (Text.isDigit_of_mem_digits hx) (by decide)

theorem isName_of_ascii {labels : List Text} (h : ∀ label ∈ labels, Idna.isAscii label = true) :
    Idna.isName labels = true := by
  have hlabels : labels.all Idna.isLabel = true := by
    rw [List.all_eq_true]
    exact fun label hlabel => by rw [Idna.isLabel, h label hlabel, Bool.true_or]
  have hright : labels.any Idna.runsRightToLeft = false := by
    rw [List.any_eq_false]
    intro label hlabel
    rw [Bool.not_eq_true, Idna.runsRightToLeft, List.any_eq_false]
    intro c hc
    have hlt : c.toNat < 128 := of_decide_eq_true (List.all_eq_true.mp (h label hlabel) c hc)
    simp
    omega
  rw [Idna.isName, hlabels, hright]
  rfl

theorem toAscii?_write (address : Nat) :
    Idna.toAscii? (Ipv4.write address) = some (Ipv4.write address) := by
  have hplain : ∀ label ∈ (Ipv4.octetsOf address).map Text.digits, ∀ c ∈ label,
      Idna.isPlain c = true ∧ c ≠ '.' := by
    intro label hlabel c hc
    obtain ⟨n, -, rfl⟩ := List.mem_map.mp hlabel
    exact isPlain_of_mem_digits hc
  have hascii : ∀ label ∈ (Ipv4.octetsOf address).map Text.digits,
      Idna.isAscii label = true :=
    fun label hlabel => Idna.isAscii_of_plain fun c hc => (hplain label hlabel c hc).1
  have hjoins : Idna.Joins ((Ipv4.octetsOf address).map Text.digits)
      ((Ipv4.octetsOf address).map Text.digits) := {
    nonempty := by simp [Ipv4.octetsOf]
    allowed := fun label hlabel c hc =>
      ⟨((Idna.isPlain_iff c).mp (hplain label hlabel c hc).1).2, (hplain label hlabel c hc).2⟩
    writable := by
      rw [List.all_eq_true]
      exact fun label hlabel => by rw [Idna.isWritable, hascii label hlabel, Bool.true_or]
    reads := by simp [Ipv4.octetsOf, unicodeLabel?_digits]
    name := isName_of_ascii hascii }
  rw [Ipv4.write_eq]
  exact Idna.toAscii?_of_plain hjoins fun label hlabel c hc => (hplain label hlabel c hc).1

/-- **A host is read back from its text.** -/
theorem Canonical.readSpecial_text {h : Host} (hh : h.Canonical) :
    readSpecial h.text = .ok h := by
  cases hh with
  | ipv6 hpieces =>
      rename_i pieces
      show readBracketed (Ipv6.write pieces ++ [']']) = _
      simp only [readBracketed, List.getLast?_concat, List.dropLast_concat,
        Ipv6.read?_write hpieces]
  | ipv4 haddress =>
      rename_i address
      show readSpecial (Ipv4.write address) = _
      rw [readSpecial_of_plain (fun c hc => isPlain_of_mem_write hc) (toAscii?_write address),
        ofAscii, if_neg (by simp [Ipv4.write]), if_pos (Ipv4.endsInNumber_write address),
        Ipv4.read?_write haddress]
  | domain hne hname hnumber =>
      rename_i name
      show readSpecial name = _
      rw [readSpecial_of_plain (Idna.plain_of_toAscii? hname) hname, ofAscii, if_neg hne,
        if_neg (by simp [hnumber])]

/-! ## Finding the end of the host -/

theorem cutHost_end {rest : Text} (h : rest = [] ∨ rest.head? = some ':') :
    Url.cutHost false rest = ([], rest) := by
  rcases h with rfl | h
  · rfl
  · obtain ⟨tail, rfl⟩ : ∃ tail, rest = ':' :: tail := by
      cases rest with
      | nil => cases h
      | cons c tail => exact ⟨tail, by rw [Option.some.inj h]⟩
    rfl

theorem cutHost_plain {front : Text} (h : ∀ c ∈ front, Idna.isPlain c = true) (rest : Text) :
    Url.cutHost false (front ++ rest) =
      (front ++ (Url.cutHost false rest).1, (Url.cutHost false rest).2) := by
  induction front with
  | nil => rfl
  | cons c front ih =>
      have hc := h c (by simp)
      have hcolon : (c == ':') = false := by
        rw [beq_eq_false_iff_ne]
        rintro rfl
        exact absurd hc (by decide)
      have hbracket : (c == '[') = false := by
        rw [beq_eq_false_iff_ne]
        rintro rfl
        exact absurd hc (by decide)
      rw [List.cons_append, Url.cutHost]
      simp only [hcolon, hbracket, Bool.false_and, Bool.or_false, Bool.false_eq_true, if_false,
        ih fun d hd => h d (List.mem_cons_of_mem c hd)]
      rfl

theorem cutHost_bracketed {inner : Text} (h : ∀ c ∈ inner, c ≠ ']') (rest : Text) :
    Url.cutHost true (inner ++ ']' :: rest) =
      (inner ++ ']' :: (Url.cutHost false rest).1, (Url.cutHost false rest).2) := by
  induction inner with
  | nil => rfl
  | cons c inner ih =>
      have hc : (c != ']') = true := by simpa using h c (by simp)
      rw [List.cons_append, Url.cutHost]
      simp only [hc, Bool.not_true, Bool.and_false, Bool.false_eq_true, if_false, Bool.and_self,
        Bool.or_true, ih fun d hd => h d (List.mem_cons_of_mem c hd)]
      rfl

/-- The host ends where its text does. -/
theorem Canonical.cutHost_text {h : Host} (hh : h.Canonical) {rest : Text}
    (hrest : rest = [] ∨ rest.head? = some ':') :
    Url.cutHost false (h.text ++ rest) = (h.text, rest) := by
  rcases hh.text_cases with ⟨-, hplain⟩ | ⟨inner, htext, hinner⟩
  · rw [cutHost_plain hplain, cutHost_end hrest, List.append_nil]
  · have hclose : ∀ c ∈ inner, c ≠ ']' := by
      rintro c hc rfl
      exact absurd (hinner _ hc) (by decide)
    have hopen : Url.cutHost false ('[' :: (inner ++ ']' :: rest)) =
        ('[' :: (Url.cutHost true (inner ++ ']' :: rest)).1,
          (Url.cutHost true (inner ++ ']' :: rest)).2) := rfl
    rw [htext, List.cons_append, List.cons_append, List.append_assoc, List.singleton_append,
      hopen, cutHost_bracketed hclose, cutHost_end hrest]

end Host

end JobsGateway
