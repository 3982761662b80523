import JobsGateway.Proofs.Text.Split
import JobsGateway.Proofs.Text.Utf8
import JobsGateway.Proofs.Url.Punycode
import JobsGateway.Url.Domain

/-!
# Domain names in their ASCII form

The ASCII form of a domain name is the ASCII form of itself. Its labels are
ASCII, none of their characters is mapped or refused, and each label reads as
the one it was made from: an ASCII label as itself, and any other by the round
trip of Punycode.
-/

namespace JobsGateway.Idna

/-! ## Plain characters -/

/-- A character that stays as it is in a domain name. -/
def isPlain (c : Char) : Bool :=
  c.toNat < 0x80 && !isForbidden c

theorem isPlain_iff (c : Char) : isPlain c = true ↔ c.toNat < 0x80 ∧ isForbidden c = false := by
  simp [isPlain]

theorem isPlain_of_isDigitChar {c : Char} (h : Punycode.isDigitChar c = true) :
    isPlain c = true ∧ c ≠ '.' := by
  have hlt : c.toNat < 128 := by
    rw [Punycode.isDigitChar, Bool.or_eq_true] at h
    rcases h with hlower | hdigit
    · exact Text.lt_of_isLower hlower
    · exact Text.lt_of_isDigit hdigit
  exact Text.forall_ascii
    (P := fun c => Punycode.isDigitChar c = true → isPlain c = true ∧ c ≠ '.')
    (by decide +kernel) hlt h

theorem toLower_of_plain {c : Char} (h : isPlain c = true) : c.toLower = c := by
  have hupper : c.isUpper = false := by
    have := ((isPlain_iff c).mp h).2
    simp only [isForbidden, Bool.or_eq_false_iff] at this
    exact this.1.2
  refine dif_neg fun hrange => ?_
  have hrange : c.isUpper = true := decide_eq_true hrange
  rw [hupper] at hrange
  cases hrange

theorem map?_of_plain {text : Text} (h : ∀ c ∈ text, isPlain c = true) :
    map? text = some text := by
  induction text with
  | nil => rfl
  | cons c text ih =>
      have hc := h c (by simp)
      have himage : mapChar? c = some [c] := by
        rw [mapChar?, if_pos ((isPlain_iff c).mp hc).1, toLower_of_plain hc]
      rw [map?, himage, ih fun d hd => h d (List.mem_cons_of_mem c hd)]
      rfl

theorem isAscii_of_plain {text : Text} (h : ∀ c ∈ text, isPlain c = true) :
    isAscii text = true := by
  rw [isAscii, List.all_eq_true]
  exact fun c hc => decide_eq_true ((isPlain_iff c).mp (h c hc)).1

/-! ## Labels -/

theorem asciiLabel_of_ascii {label : Text} (h : isAscii label = true) :
    asciiLabel label = label := by
  rw [asciiLabel, if_pos h]

theorem plain_asciiLabel {label : Text}
    (h : ∀ c ∈ label, isForbidden c = false ∧ c ≠ '.') {c : Char}
    (hc : c ∈ asciiLabel label) : isPlain c = true ∧ c ≠ '.' := by
  unfold asciiLabel at hc
  split at hc
  · rename_i hascii
    have hlt := List.all_eq_true.mp hascii c hc
    exact ⟨(isPlain_iff c).mpr ⟨of_decide_eq_true hlt, (h c hc).1⟩, (h c hc).2⟩
  · rcases List.mem_append.mp hc with hc | hc
    · have hall : acePrefix.all (fun d => isPlain d && d != '.') = true := by decide
      simpa using List.all_eq_true.mp hall c hc
    · rcases Punycode.mem_encode hc with ⟨hmem, hlt⟩ | rfl | hdigit
      · exact ⟨(isPlain_iff c).mpr ⟨hlt, (h c hmem).1⟩, (h c hmem).2⟩
      · decide
      · exact isPlain_of_isDigitChar hdigit

/-- The ASCII form of a label reads as the label does. -/
theorem unicodeLabel?_asciiLabel {label text : Text}
    (hallowed : ∀ c ∈ label, isForbidden c = false ∧ c ≠ '.')
    (hwritable : isWritable label = true) (h : unicodeLabel? label = some text) :
    unicodeLabel? (asciiLabel label) = some text := by
  by_cases hascii : isAscii label = true
  · rwa [asciiLabel_of_ascii hascii]
  · -- Only an ASCII label can be Punycode, so any other reads as itself.
    have htext : label = text := by
      unfold unicodeLabel? at h
      split at h
      · simp at h
      · exact Option.some.inj h
    subst htext
    have hform : asciiLabel label = acePrefix ++ Punycode.encode label := by
      rw [asciiLabel, if_neg hascii]
    have hread : isAscii (asciiLabel label) = true :=
      isAscii_of_plain fun c hc => (plain_asciiLabel hallowed hc).1
    have hlength : label.length ≤ labelLimit := by
      rw [isWritable, Bool.or_eq_true] at hwritable
      exact of_decide_eq_true (hwritable.resolve_left hascii)
    have hfit : 0x110000 * label.length ≤ Nat.pow 2 32 :=
      Nat.le_trans (Nat.mul_le_mul_left _ hlength) (by decide)
    rw [hform] at hread ⊢
    have hdrop : (acePrefix ++ Punycode.encode label).drop 4 = Punycode.encode label := rfl
    rw [unicodeLabel?, if_pos (by simp), if_pos hread, hdrop,
      Punycode.decode?_encode hfit]
    simp [hascii]

/-- The labels of a name, as they read, may stand in one name together. -/
def isName (readable : List Text) : Bool :=
  readable.all isLabel && (!readable.any runsRightToLeft || readable.all keepsDirection)

/-- What is asked of labels before their ASCII form is put together: their
characters are allowed, and they read as labels of one name. -/
structure Joins (labels readable : List Text) : Prop where
  nonempty : labels ≠ []
  allowed : ∀ label ∈ labels, ∀ c ∈ label, isForbidden c = false ∧ c ≠ '.'
  writable : labels.all isWritable = true
  reads : labels.mapM unicodeLabel? = some readable
  name : isName readable = true

theorem toAscii?_eq_some {domain name : Text} (h : toAscii? domain = some name) :
    ∃ labels readable, Joins labels readable ∧
      name = ['.'].intercalate (labels.map asciiLabel) := by
  unfold toAscii? at h
  obtain ⟨mapped, -, h⟩ := Option.bind_eq_some_iff.mp h
  simp only at h
  generalize (if isAscii mapped = true then mapped else normalize mapped) = text at h
  split at h
  · cases h
  · rename_i hallowed
    obtain ⟨readable, hreads, h⟩ := Option.bind_eq_some_iff.mp h
    split at h
    · rename_i hchecks
      simp only [Bool.and_assoc, Bool.and_eq_true_iff] at hchecks
      refine ⟨text.splitOn '.', readable, ?_, (Option.some.inj h).symm⟩
      exact {
        nonempty := List.splitOn_ne_nil '.' text
        allowed := fun label hlabel c hc => by
          obtain ⟨hmem, hdot⟩ := Text.mem_of_mem_splitOn hlabel hc
          rw [Bool.not_eq_true, List.any_eq_false] at hallowed
          exact ⟨by simpa using hallowed c hmem, hdot⟩
        writable := hchecks.1
        reads := hreads
        name := by
          rw [isName, Bool.and_eq_true_iff]
          exact hchecks.2 }
    · cases h

/-- A name of plain characters whose labels all read as labels of one name is
brought to ASCII label by label. -/
theorem toAscii?_of_plain {labels readable : List Text} (h : Joins labels readable)
    (hplain : ∀ label ∈ labels, ∀ c ∈ label, isPlain c = true) :
    toAscii? (['.'].intercalate labels) = some (['.'].intercalate labels) := by
  have hdot : ∀ label ∈ labels, '.' ∉ label :=
    fun label hlabel hc => (h.allowed label hlabel '.' hc).2 rfl
  have hchars : ∀ c ∈ ['.'].intercalate labels, isPlain c = true := by
    intro c hc
    rcases Text.mem_intercalate hc with rfl | ⟨label, hlabel, hc⟩
    · decide
    · exact hplain label hlabel c hc
  have hallowed : (['.'].intercalate labels).any isForbidden = false := by
    rw [List.any_eq_false]
    intro c hc
    simpa using ((isPlain_iff c).mp (hchars c hc)).2
  have hself : labels.map asciiLabel = labels :=
    (List.map_congr_left fun label hlabel =>
      asciiLabel_of_ascii (isAscii_of_plain (hplain label hlabel))).trans (List.map_id labels)
  have hname := h.name
  rw [isName, Bool.and_eq_true_iff] at hname
  unfold toAscii?
  rw [map?_of_plain hchars]
  simp only [Option.bind_eq_bind, Option.bind_some, isAscii_of_plain hchars, if_true, hallowed,
    Bool.false_eq_true, if_false, List.splitOn_intercalate '.' hdot h.nonempty, h.reads,
    h.writable, hname.1, hname.2, hself, Bool.and_self]
  rfl

theorem mapM_map_of_eq {f : Text → Option Text} {g : Text → Text} {texts results : List Text}
    (h : texts.mapM f = some results)
    (hg : ∀ text ∈ texts, ∀ result, f text = some result → f (g text) = some result) :
    (texts.map g).mapM f = some results := by
  induction texts generalizing results with
  | nil => exact h
  | cons text texts ih =>
      rw [List.mapM_cons] at h
      obtain ⟨result, hresult, h⟩ := Option.bind_eq_some_iff.mp h
      obtain ⟨rest, hrest, h⟩ := Option.bind_eq_some_iff.mp h
      rw [List.map_cons, List.mapM_cons, hg text (by simp) result hresult,
        ih hrest fun t ht => hg t (List.mem_cons_of_mem text ht)]
      exact h

/-- The ASCII forms of labels are labels of the same name. -/
theorem Joins.ascii {labels readable : List Text} (h : Joins labels readable) :
    Joins (labels.map asciiLabel) readable where
  nonempty := by simpa using h.nonempty
  allowed := by
    intro label hlabel c hc
    obtain ⟨source, hsource, rfl⟩ := List.mem_map.mp hlabel
    obtain ⟨hplain, hdot⟩ := plain_asciiLabel (h.allowed source hsource) hc
    exact ⟨((isPlain_iff c).mp hplain).2, hdot⟩
  writable := by
    rw [List.all_map, List.all_eq_true]
    intro label hlabel
    have hascii : isAscii (asciiLabel label) = true :=
      isAscii_of_plain fun c hc => (plain_asciiLabel (h.allowed label hlabel) hc).1
    simp [isWritable, hascii]
  reads := mapM_map_of_eq h.reads fun label hlabel text htext =>
    unicodeLabel?_asciiLabel (h.allowed label hlabel)
      (List.all_eq_true.mp h.writable label hlabel) htext
  name := h.name

/-- The ASCII form of a name holds nothing but plain characters. -/
theorem plain_of_toAscii? {domain name : Text} (h : toAscii? domain = some name) :
    ∀ c ∈ name, isPlain c = true := by
  obtain ⟨labels, readable, hjoins, rfl⟩ := toAscii?_eq_some h
  intro c hc
  rcases Text.mem_intercalate hc with rfl | ⟨label, hlabel, hc⟩
  · decide
  · obtain ⟨source, hsource, rfl⟩ := List.mem_map.mp hlabel
    exact (plain_asciiLabel (hjoins.allowed source hsource) hc).1

/-- **The ASCII form of a name is its own ASCII form.** -/
theorem toAscii?_toAscii? {domain name : Text} (h : toAscii? domain = some name) :
    toAscii? name = some name := by
  obtain ⟨labels, readable, hjoins, rfl⟩ := toAscii?_eq_some h
  refine toAscii?_of_plain hjoins.ascii fun label hlabel c hc => ?_
  obtain ⟨source, hsource, rfl⟩ := List.mem_map.mp hlabel
  exact (plain_asciiLabel (hjoins.allowed source hsource) hc).1

end JobsGateway.Idna
