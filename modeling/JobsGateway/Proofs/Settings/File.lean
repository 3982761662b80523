import JobsGateway.Proofs.Outcome
import JobsGateway.Proofs.Yaml.Mapping
import JobsGateway.Proofs.Yaml.Number
import JobsGateway.Settings.Environment

/-!
# A settings file of one setting a line

Each line of such a file names a setting, or has a key that means nothing here. What
the lines say is taken together, and the order makes no difference: each setting is
what its line says, or the standard one if no line names it. A setting that two lines
name, a URL that is none, or a number that is negative or too large makes the whole
file malformed.
-/

namespace JobsGateway

/-- A layer laid over another one. -/
def Layer.above (upper lower : Layer) : Layer where
  listen := upper.listen.or lower.listen
  backendUrl := upper.backendUrl.or lower.backendUrl
  timeoutSeconds := upper.timeoutSeconds.or lower.timeoutSeconds
  identityUrl := upper.identityUrl.or lower.identityUrl
  maxBody := upper.maxBody.or lower.maxBody

theorem Layer.empty_above (l : Layer) : empty.above l = l := rfl

theorem Layer.has_above (upper lower : Layer) (key : SettingsKey) :
    (upper.above lower).has key = (upper.has key || lower.has key) := by
  cases key <;> exact Option.isSome_or

namespace SettingsFile

/-! ## Lines -/

/-- A text as it stands between double quotes. -/
structure QuotedText where
  inner : Text
  text : Text
  means : Yaml.Quoted.Inner true inner text
  allowed : ∀ c ∈ inner, Yaml.isAllowed c = true

/-- The text with its quotes, as the value in a line. -/
def QuotedText.written (w : QuotedText) : Yaml.OneLine true where
  source := '"' :: w.inner ++ ['"']
  style := .doubleQuoted
  text := w.text
  inLine := .quoted w.means
  allowed := by
    intro c hc
    rcases List.mem_append.mp hc with hc | hc
    · rcases List.mem_cons.mp hc with rfl | hc
      · decide
      · exact w.allowed c hc
    · rw [List.mem_singleton.mp hc]
      decide

/-- A line of a settings file: a setting with its value, or a key of another name with any
scalar. -/
inductive Line where
  | listen (address : QuotedText)
  | backendUrl (url : QuotedText)
  | timeout (seconds : Int)
  | identityUrl (url : QuotedText)
  | maxBody (octets : Int)
  | other (key : Yaml.Key) (value : Yaml.OneLine true)
    (unknown : SettingsKey.named? key.text = none)

/-- The key of a setting as it begins a line. -/
def keyOf (key : SettingsKey) : Yaml.Key where
  source := key.name
  style := .plain
  text := key.name
  inLine := .plain (by cases key <;> decide)
  allowed := List.all_eq_true.mp (by cases key <;> decide)
  short := by cases key <;> decide
  unmarked := by cases key <;> decide

namespace Line

/-- The setting that a line names. -/
def key? : Line → Option SettingsKey
  | .listen _ => some .listen
  | .backendUrl _ => some .backendUrl
  | .timeout _ => some .timeout
  | .identityUrl _ => some .identityUrl
  | .maxBody _ => some .maxBody
  | .other _ _ _ => none

/-- A line as it is written. -/
def entry : Line → Yaml.Entry
  | .listen address => ⟨keyOf .listen, address.written⟩
  | .backendUrl url => ⟨keyOf .backendUrl, url.written⟩
  | .timeout seconds => ⟨keyOf .timeout, .integer seconds⟩
  | .identityUrl url => ⟨keyOf .identityUrl, url.written⟩
  | .maxBody octets => ⟨keyOf .maxBody, .integer octets⟩
  | .other key value _ => ⟨key, value⟩

/-- A value that fits its setting: a URL that can be read, or a natural number of 64 bits. -/
def Fits : Line → Prop
  | .backendUrl url => ∃ u, Url.parse url.text = .ok u
  | .identityUrl url => ∃ u, Url.parse url.text = .ok u
  | .timeout seconds => 0 ≤ seconds ∧ seconds < Text.word
  | .maxBody octets => 0 ≤ octets ∧ octets < Text.word
  | _ => True

/-- What a line says, as a layer of its own. -/
def layer : Line → Layer
  | .listen address => { Layer.empty with listen := some address.text }
  | .backendUrl url => { Layer.empty with backendUrl := (Url.parse url.text).toOption }
  | .timeout seconds => { Layer.empty with timeoutSeconds := some seconds.toNat }
  | .identityUrl url => { Layer.empty with identityUrl := (Url.parse url.text).toOption }
  | .maxBody octets => { Layer.empty with maxBody := some octets.toNat }
  | .other _ _ _ => .empty

end Line

/-- The text of a file. `ended` says whether its last line has a break. -/
def textOf (ended : Bool) (lines : List Line) : Text :=
  Yaml.Entry.textOf ended (lines.map Line.entry)

/-- Lines that name no setting twice, and give each one a value that fits. -/
structure Proper (lines : List Line) : Prop where
  once : (lines.filterMap Line.key?).Nodup
  fits : ∀ line ∈ lines, line.Fits

/-- What lines come to for one setting: what any line says about it, or the value below if none
says anything. -/
def Says {α : Type} (lines : List Line) (part : Layer → Option α) (below value : α) : Prop :=
  (∀ line ∈ lines, ∀ v, part line.layer = some v → value = v) ∧
    ((∀ line ∈ lines, part line.layer = none) → value = below)

/-- Settings that are what the lines say, and standard otherwise. -/
structure Named (lines : List Line) (s : Settings) : Prop where
  listen : Says lines Layer.listen Settings.standard.listen s.listen
  backendUrl : Says lines Layer.backendUrl Settings.standard.backendUrl s.backendUrl
  timeoutSeconds : Says lines Layer.timeoutSeconds Settings.standard.timeoutSeconds s.timeoutSeconds
  identityUrl : Says lines Layer.identityUrl Settings.standard.identityUrl s.identityUrl
  maxBody : Says lines Layer.maxBody Settings.standard.maxBody s.maxBody

/-! ## Values -/

theorem readUrl_written (w : QuotedText) :
    (∀ u, Url.parse w.text = .ok u → readUrl (.scalar w.written.scalar) = .ok u) ∧
    ((¬ ∃ u, Url.parse w.text = .ok u) → ∃ m, readUrl (.scalar w.written.scalar) = .error m) := by
  have hvalue : readUrl (.scalar w.written.scalar) =
      (Url.parse w.text).mapError (.url w.text) := rfl
  rw [hvalue]
  constructor
  · intro u hparse
    exact Outcome.mapError_eq_ok_iff.mpr hparse
  · intro hnone
    cases hparse : Url.parse w.text with
    | ok u => exact absurd ⟨u, hparse⟩ hnone
    | error fault => exact ⟨.url w.text fault, rfl⟩

theorem readNatural_plain {s : Yaml.Scalar} (hplain : s.style = .plain) (expected : String)
    {n : Nat} (h : Yaml.CoreSchema.natural? Text.word s.text = some n) :
    readNatural expected (.scalar s) = .ok n := by
  simp [readNatural, mayBeInteger, hplain, h]

theorem readNatural_plain_none {s : Yaml.Scalar} (hplain : s.style = .plain) (expected : String)
    (h : Yaml.CoreSchema.natural? Text.word s.text = none) :
    readNatural expected (.scalar s) = .error (misfit expected (.scalar s)) := by
  simp [readNatural, mayBeInteger, hplain, h]

theorem readNatural_integer (expected : String) (n : Int) :
    (0 ≤ n ∧ n < Text.word →
      readNatural expected (.scalar (Yaml.OneLine.integer n).scalar) = .ok n.toNat) ∧
    (¬ (0 ≤ n ∧ n < Text.word) →
      ∃ m, readNatural expected (.scalar (Yaml.OneLine.integer n).scalar) = .error m) := by
  have hread := Yaml.CoreSchema.natural?_integerText Text.word n
  constructor
  · intro hfits
    rw [if_pos hfits] at hread
    exact readNatural_plain rfl expected hread
  · intro hnot
    rw [if_neg hnot] at hread
    exact ⟨_, readNatural_plain_none rfl expected hread⟩

/-- What is read is put in its place, and what is wrong is passed on. -/
theorem map_of_read {α : Type} {read : Except Misfit α} {put : α → Layer} {fits : Prop}
    {result : Layer} (hread : fits → ∃ a, read = .ok a ∧ put a = result)
    (hrefused : ¬ fits → ∃ m, read = .error m) :
    (fits → read.map put = .ok result) ∧ (¬ fits → ∃ m, read.map put = .error m) := by
  constructor
  · intro hfits
    obtain ⟨a, rfl, rfl⟩ := hread hfits
    rfl
  · intro hnot
    obtain ⟨m, rfl⟩ := hrefused hnot
    exact ⟨m, rfl⟩

/-- **A value that fits is laid over what has been read, and any other is refused.** -/
theorem readValue_line (layer : Layer) {line : Line} {key : SettingsKey}
    (hkey : line.key? = some key) :
    (line.Fits → readValue layer key (.scalar line.entry.value.scalar) =
      .ok (line.layer.above layer)) ∧
    (¬ line.Fits → ∃ m, readValue layer key (.scalar line.entry.value.scalar) = .error m) := by
  cases line with
  | listen address =>
      cases hkey
      exact ⟨fun _ => rfl, fun hnot => absurd trivial hnot⟩
  | backendUrl url =>
      cases hkey
      obtain ⟨hread, hrefused⟩ := readUrl_written url
      refine map_of_read ?_ hrefused
      rintro ⟨u, hparse⟩
      refine ⟨u, hread u hparse, ?_⟩
      rw [Line.layer, hparse]
      rfl
  | timeout seconds =>
      cases hkey
      obtain ⟨hread, hrefused⟩ := readNatural_integer "u64" seconds
      exact map_of_read (fun hfits => ⟨seconds.toNat, hread hfits, rfl⟩) hrefused
  | identityUrl url =>
      cases hkey
      obtain ⟨hread, hrefused⟩ := readUrl_written url
      refine map_of_read ?_ hrefused
      rintro ⟨u, hparse⟩
      refine ⟨u, hread u hparse, ?_⟩
      rw [Line.layer, hparse]
      rfl
  | maxBody octets =>
      cases hkey
      obtain ⟨hread, hrefused⟩ := readNatural_integer "usize" octets
      exact map_of_read (fun hfits => ⟨octets.toNat, hread hfits, rfl⟩) hrefused
  | other _ _ _ => cases hkey

/-! ## The lines of a mapping -/

/-- A line whose value fits names the setting of its key, and no other one. -/
theorem has_layer {line : Line} (hfits : line.Fits) (key : SettingsKey) :
    line.layer.has key = decide (line.key? = some key) := by
  cases line with
  | backendUrl url =>
      obtain ⟨u, hparse⟩ := hfits
      rw [Line.layer, hparse]
      cases key <;> rfl
  | identityUrl url =>
      obtain ⟨u, hparse⟩ := hfits
      rw [Line.layer, hparse]
      cases key <;> rfl
  | listen _ | timeout _ | maxBody _ | other _ _ _ => cases key <;> rfl

/-- Lines that may come when a layer has been read: they are proper, and none of them names a
setting of the layer. -/
structure Admits (layer : Layer) (lines : List Line) : Prop extends Proper lines where
  fresh : ∀ key ∈ lines.filterMap Line.key?, layer.has key = false

theorem admits_nil (layer : Layer) : Admits layer [] where
  once := List.nodup_nil
  fits := by
    rintro line ⟨⟩
  fresh := by
    rintro key ⟨⟩

/-- A layer with some lines laid over it, one after the other. -/
def take (layer : Layer) (lines : List Line) : Layer :=
  lines.foldl (fun l line => line.layer.above l) layer

section Lines

variable {layer : Layer} {line : Line} {key : SettingsKey} {lines : List Line}

theorem admits_cons_of_none (hkey : line.key? = none) (hfits : line.Fits) :
    Admits layer (line :: lines) ↔ Admits layer lines := by
  have hkeys : (line :: lines).filterMap Line.key? = lines.filterMap Line.key? := by
    rw [List.filterMap_cons, hkey]
  constructor
  · rintro ⟨⟨honce, hall⟩, hfresh⟩
    rw [hkeys] at honce hfresh
    exact ⟨⟨honce, fun l hl => hall l (List.mem_cons_of_mem line hl)⟩, hfresh⟩
  · rintro ⟨⟨honce, hall⟩, hfresh⟩
    rw [← hkeys] at honce hfresh
    exact ⟨⟨honce, List.forall_mem_cons.mpr ⟨hfits, hall⟩⟩, hfresh⟩

theorem admits_cons_of_some (hkey : line.key? = some key) (hfits : line.Fits)
    (hnew : layer.has key = false) :
    Admits layer (line :: lines) ↔ Admits (line.layer.above layer) lines := by
  have hkeys : (line :: lines).filterMap Line.key? = key :: lines.filterMap Line.key? := by
    rw [List.filterMap_cons, hkey]
  have hover (k : SettingsKey) :
      (line.layer.above layer).has k = false ↔ key ≠ k ∧ layer.has k = false := by
    rw [Layer.has_above, has_layer hfits, hkey, Bool.or_eq_false_iff, decide_eq_false_iff_not,
      Option.some.injEq]
  constructor
  · rintro ⟨⟨honce, hall⟩, hfresh⟩
    rw [hkeys] at honce hfresh
    obtain ⟨hout, honce⟩ := List.nodup_cons.mp honce
    refine ⟨⟨honce, fun l hl => hall l (List.mem_cons_of_mem line hl)⟩, fun k hk => ?_⟩
    exact (hover k).mpr ⟨fun heq => hout (heq ▸ hk), hfresh k (List.mem_cons_of_mem key hk)⟩
  · rintro ⟨⟨honce, hall⟩, hfresh⟩
    have hout : key ∉ lines.filterMap Line.key? :=
      fun hk => ((hover key).mp (hfresh key hk)).1 rfl
    refine ⟨⟨?_, List.forall_mem_cons.mpr ⟨hfits, hall⟩⟩, ?_⟩
    · rw [hkeys]
      exact List.nodup_cons.mpr ⟨hout, honce⟩
    · rw [hkeys]
      exact List.forall_mem_cons.mpr ⟨hnew, fun k hk => ((hover k).mp (hfresh k hk)).2⟩

end Lines

section Entries

variable {d : Yaml.Document} {start : Yaml.Mark} {k v : Yaml.PlacedNode}
  {nodes : List Yaml.PlacedNode} {name value : Yaml.Scalar} {layer : Layer} {line : Line}
  {key : SettingsKey}

theorem resolve_scalar (h : k.node = .scalar name) : d.resolve k = k := by
  rw [Yaml.Document.resolve, h]

theorem afterKey_scalar (hkey : k.node = .scalar name) :
    afterKey layer start k.isAlias (d.resolve k) =
      match SettingsKey.named? name.text with
      | none => .ok .unused
      | some key =>
        if layer.has key then .error (.duplicate key start) else .ok (.value key (.value key)) := by
  rw [resolve_scalar hkey, afterKey, Yaml.PlacedNode.isAlias, hkey]
  rfl

/-- A scalar under a key that means nothing is passed over. -/
theorem readEntries_unknown (hkey : k.node = .scalar name) (hvalue : v.node = .scalar value)
    (hname : SettingsKey.named? name.text = none) :
    readEntries d start layer .key (k :: v :: nodes) = readEntries d start layer .key nodes := by
  rw [readEntries, hkey, if_neg (by simp), afterKey_scalar hkey, hname]
  show readEntries d start layer .unused (v :: nodes) = _
  rw [readEntries, hvalue]
  rfl

/-- A setting that is named for the second time is refused. -/
theorem readEntries_repeated (hkey : k.node = .scalar name)
    (hname : SettingsKey.named? name.text = some key) (hhas : layer.has key = true) :
    readEntries d start layer .key (k :: v :: nodes) = .error (.duplicate key start) := by
  rw [readEntries, hkey, if_neg (by simp), afterKey_scalar hkey, hname]
  simp only [hhas, if_true]

/-- The value of a setting is read. -/
theorem readEntries_known (hkey : k.node = .scalar name) (hvalue : v.node = .scalar value)
    (hname : SettingsKey.named? name.text = some key) (hnew : layer.has key = false) :
    readEntries d start layer .key (k :: v :: nodes) =
      match readValue layer key (.scalar value) with
      | .error m => .error (.misfit (.value key) m v.mark)
      | .ok next => readEntries d start next .key nodes := by
  rw [readEntries, hkey, if_neg (by simp), afterKey_scalar hkey, hname]
  simp only [hnew, Bool.false_eq_true, if_false]
  cases hread : readValue layer key (.scalar value) with
  | error m => simp only [readEntries, resolve_scalar hvalue, hvalue, hread]
  | ok next => simp only [readEntries, resolve_scalar hvalue, hvalue, hread]

theorem named?_name (key : SettingsKey) : SettingsKey.named? key.name = some key := by
  cases key <;> decide

theorem named?_key (line : Line) : SettingsKey.named? line.entry.key.text = line.key? := by
  cases line with
  | listen _ => exact named?_name .listen
  | backendUrl _ => exact named?_name .backendUrl
  | timeout _ => exact named?_name .timeout
  | identityUrl _ => exact named?_name .identityUrl
  | maxBody _ => exact named?_name .maxBody
  | other key value unknown => exact unknown

theorem of_key?_eq_none (h : line.key? = none) : line.Fits ∧ line.layer = .empty := by
  cases line with
  | other key value unknown => exact ⟨trivial, rfl⟩
  | listen _ | backendUrl _ | timeout _ | identityUrl _ | maxBody _ => cases h

theorem not_admits_of_repeated {lines : List Line} (hkey : line.key? = some key)
    (hhas : layer.has key = true) : ¬ Admits layer (line :: lines) := by
  intro h
  have hmem : key ∈ (line :: lines).filterMap Line.key? :=
    List.mem_filterMap.mpr ⟨line, List.mem_cons_self, hkey⟩
  rw [h.fresh key hmem] at hhas
  cases hhas

/-- **Lines are read one after the other**, as long as none of them is wrong. -/
theorem readEntries_lines {lines : List Line}
    (hnodes : nodes.map Yaml.PlacedNode.node = Yaml.Entry.nodesOf (lines.map Line.entry)) :
    (Admits layer lines → readEntries d start layer .key nodes = .ok (take layer lines)) ∧
    (¬ Admits layer lines → ∃ fault, readEntries d start layer .key nodes = .error fault) := by
  induction lines generalizing layer nodes with
  | nil =>
      obtain ⟨n, rest, rfl, hn, -⟩ := List.map_eq_cons_iff.mp hnodes
      rw [readEntries, if_pos hn]
      exact ⟨fun _ => rfl, fun hnot => absurd (admits_nil layer) hnot⟩
  | cons line lines ih =>
      obtain ⟨k, rest, rfl, hk, hrest⟩ := List.map_eq_cons_iff.mp hnodes
      obtain ⟨v, nodes, rfl, hv, hnodes⟩ := List.map_eq_cons_iff.mp hrest
      have hname : SettingsKey.named? line.entry.key.scalar.text = line.key? := named?_key line
      cases hkey : line.key? with
      | none =>
          obtain ⟨hfits, hempty⟩ := of_key?_eq_none hkey
          have htake : take layer (line :: lines) = take layer lines := by
            show take (line.layer.above layer) lines = _
            rw [hempty, Layer.empty_above]
          rw [readEntries_unknown hk hv (hname.trans hkey), admits_cons_of_none hkey hfits, htake]
          exact ih hnodes
      | some key =>
          rw [hkey] at hname
          cases hhas : layer.has key with
          | true =>
              rw [readEntries_repeated hk hname hhas]
              exact ⟨fun h => absurd h (not_admits_of_repeated hkey hhas), fun _ => ⟨_, rfl⟩⟩
          | false =>
              obtain ⟨hread, hrefused⟩ := readValue_line layer hkey
              rw [readEntries_known hk hv hname hhas]
              by_cases hfits : line.Fits
              · rw [hread hfits, admits_cons_of_some hkey hfits hhas]
                exact ih hnodes
              · obtain ⟨m, hm⟩ := hrefused hfits
                rw [hm]
                exact ⟨fun h => absurd (h.fits line List.mem_cons_self) hfits, fun _ => ⟨_, rfl⟩⟩

end Entries

/-! ## The file -/

theorem admits_empty_iff {lines : List Line} : Admits .empty lines ↔ Proper lines := by
  constructor
  · exact fun h => h.toProper
  · refine fun h => ⟨h, fun key _ => ?_⟩
    cases key <;> rfl

/-- A document that is one mapping is read as its entries. -/
theorem read_of_ofText {text : Text} {n : Yaml.PlacedNode} {nodes : List Yaml.PlacedNode}
    (htext : Yaml.Document.ofText text = (⟨n :: nodes, [], none⟩, false))
    (hn : n.node = .mappingStart) :
    read text = readEntries ⟨n :: nodes, [], none⟩ n.mark .empty .key nodes := by
  obtain ⟨node, mark⟩ := n
  obtain rfl : node = .mappingStart := hn
  rw [read, htext]
  show (readRoot ⟨⟨.mappingStart, mark⟩ :: nodes, [], none⟩ >>= fun layer => pure layer) = _
  rw [bind_pure]
  rfl

/-- **A text of lines is read as what they say**, if they are proper. -/
theorem read_textOf (ended : Bool) (lines : List Line) :
    (Proper lines → read (textOf ended lines) = .ok (take .empty lines)) ∧
    (¬ Proper lines → ∃ fault, read (textOf ended lines) = .error fault) := by
  rw [← admits_empty_iff]
  by_cases hnil : lines = []
  · subst hnil
    have hempty : read [] = .ok .empty :=
      Outcome.toOption_eq_some_iff.mp (by decide +kernel)
    exact ⟨fun _ => hempty, fun h => absurd (admits_nil .empty) h⟩
  · have hentries : lines.map Line.entry ≠ [] := by simpa using hnil
    obtain ⟨placed, htext, hnodes⟩ := Yaml.Document.ofText_textOf ended hentries
    obtain ⟨n, nodes, rfl, hn, hnodes⟩ := List.map_eq_cons_iff.mp hnodes
    rw [textOf, read_of_ofText htext hn]
    exact readEntries_lines hnodes

/-! ## What lines come to -/

section Parts

variable {α : Type} {part : Layer → Option α} {key : SettingsKey} {layer : Layer} {line : Line}
  {lines lines' : List Line} {below value value' : α}

/-- The part of layers that holds the setting of a key. -/
structure IsPart (part : Layer → Option α) (key : SettingsKey) : Prop where
  above : ∀ upper lower : Layer, part (upper.above lower) = (part upper).or (part lower)
  has : ∀ l : Layer, (part l).isSome = l.has key

theorem IsPart.key?_eq (h : IsPart part key) (hfits : line.Fits) {v : α}
    (hv : part line.layer = some v) : line.key? = some key := by
  have hhas : line.layer.has key = true := by
    rw [← h.has, hv]
    rfl
  rw [has_layer hfits] at hhas
  exact of_decide_eq_true hhas

theorem IsPart.empty (h : IsPart part key) : part .empty = none := by
  rw [← Option.not_isSome_iff_eq_none, h.has]
  cases key <;> decide

theorem IsPart.take_of_none (h : IsPart part key)
    (hnone : ∀ line ∈ lines, part line.layer = none) : part (take layer lines) = part layer := by
  induction lines generalizing layer with
  | nil => rfl
  | cons line lines ih =>
      show part (take (line.layer.above layer) lines) = _
      rw [ih fun l hl => hnone l (List.mem_cons_of_mem line hl), h.above,
        hnone line List.mem_cons_self, Option.none_or]

theorem Proper.tail (h : Proper (line :: lines)) : Proper lines where
  once := h.once.sublist ((List.sublist_cons_self line lines).filterMap _)
  fits l hl := h.fits l (List.mem_cons_of_mem line hl)

/-- If no setting is named twice, nothing is laid over what a line says. -/
theorem IsPart.take_of_mem (h : IsPart part key) (hproper : Proper lines) (hline : line ∈ lines)
    {v : α} (hv : part line.layer = some v) : part (take layer lines) = some v := by
  induction lines generalizing layer with
  | nil => cases hline
  | cons first lines ih =>
      show part (take (first.layer.above layer) lines) = _
      rcases List.mem_cons.mp hline with rfl | hline
      · have honce := hproper.once
        rw [List.filterMap_cons, h.key?_eq (hproper.fits line List.mem_cons_self) hv] at honce
        obtain ⟨hout, -⟩ := List.nodup_cons.mp honce
        have hnone : ∀ l ∈ lines, part l.layer = none := by
          intro l hl
          cases hw : part l.layer with
          | none => rfl
          | some w =>
              have hkey := h.key?_eq (hproper.tail.fits l hl) hw
              exact absurd (List.mem_filterMap.mpr ⟨l, hl, hkey⟩) hout
        rw [h.take_of_none hnone, h.above, hv, Option.some_or]
      · exact ih hproper.tail hline

theorem IsPart.says_take (h : IsPart part key) (hproper : Proper lines) (below : α) :
    Says lines part below ((part (take .empty lines)).getD below) := by
  constructor
  · intro line hline v hv
    rw [h.take_of_mem hproper hline hv, Option.getD_some]
  · intro hnone
    rw [h.take_of_none hnone, h.empty, Option.getD_none]

/-- The order of lines does not matter for what they say. -/
theorem Says.unique (h : Says lines part below value) (h' : Says lines' part below value')
    (hlines : ∀ line, line ∈ lines' ↔ line ∈ lines) : value = value' := by
  by_cases hsome : ∃ line ∈ lines, ∃ v, part line.layer = some v
  · obtain ⟨line, hline, v, hv⟩ := hsome
    rw [h.1 line hline v hv, h'.1 line ((hlines line).mpr hline) v hv]
  · have hnone : ∀ line ∈ lines, part line.layer = none := by
      intro line hline
      cases hv : part line.layer with
      | none => rfl
      | some v => exact absurd ⟨line, hline, v, hv⟩ hsome
    rw [h.2 hnone, h'.2 fun line hline => hnone line ((hlines line).mp hline)]

end Parts

theorem isPart_listen : IsPart Layer.listen .listen :=
  ⟨fun _ _ => rfl, fun _ => rfl⟩

theorem isPart_backendUrl : IsPart Layer.backendUrl .backendUrl :=
  ⟨fun _ _ => rfl, fun _ => rfl⟩

theorem isPart_timeoutSeconds : IsPart Layer.timeoutSeconds .timeout :=
  ⟨fun _ _ => rfl, fun _ => rfl⟩

theorem isPart_identityUrl : IsPart Layer.identityUrl .identityUrl :=
  ⟨fun _ _ => rfl, fun _ => rfl⟩

theorem isPart_maxBody : IsPart Layer.maxBody .maxBody :=
  ⟨fun _ _ => rfl, fun _ => rfl⟩

/-- Proper lines come to the settings that they name. -/
theorem named_take {lines : List Line} (h : Proper lines) :
    Named lines ((take .empty lines).onto .standard) where
  listen := isPart_listen.says_take h _
  backendUrl := isPart_backendUrl.says_take h _
  timeoutSeconds := isPart_timeoutSeconds.says_take h _
  identityUrl := isPart_identityUrl.says_take h _
  maxBody := isPart_maxBody.says_take h _

theorem Named.unique {lines lines' : List Line} {s s' : Settings} (h : Named lines s)
    (h' : Named lines' s') (hlines : ∀ line, line ∈ lines' ↔ line ∈ lines) : s = s' := by
  cases s
  cases s'
  rw [Settings.mk.injEq]
  exact ⟨h.listen.unique h'.listen hlines, h.backendUrl.unique h'.backendUrl hlines,
    h.timeoutSeconds.unique h'.timeoutSeconds hlines,
    h.identityUrl.unique h'.identityUrl hlines, h.maxBody.unique h'.maxBody hlines⟩

theorem Proper.perm {lines lines' : List Line} (h : Proper lines) (hperm : lines'.Perm lines) :
    Proper lines' where
  once := ((hperm.filterMap Line.key?).nodup_iff).mpr h.once
  fits line hline := h.fits line (hperm.mem_iff.mp hline)

/-- A file of lines is read as their text. -/
theorem ofFile_textOf {files : Files} {path : Text} {ended : Bool} {lines : List Line}
    (hfile : files path = .ok (Utf8.encode (textOf ended lines))) :
    Settings.ofFile files path = ((read (textOf ended lines)).mapError (.malformed path)).map
      fun layer => layer.onto .standard := by
  have htext : files.readText path = .ok (textOf ended lines) := by
    simp only [Files.readText, hfile, bind, Except.bind, Utf8.decode?_encode]
    rfl
  rw [Settings.ofFile, htext]
  rfl

/-- **A settings file says what its lines say, in any order.** Any lines that name no setting
twice and give each one a value that fits are settings: each one that a line names is what that
line says, and every other one is the standard one. Keys of other names make no difference.
The same lines in another order, in any file, are the same settings. And lines that name a
setting twice, or give one a value that does not fit, such as a number below zero or of more than
64 bits, are no settings at all: the file is malformed. -/
theorem ofFile_takes_lines_in_any_order (files : Files) (path : Text) (ended : Bool)
    (lines : List Line) (hfile : files path = .ok (Utf8.encode (textOf ended lines))) :
    (Proper lines → ∃ s, Settings.ofFile files path = .ok s ∧ Named lines s ∧
      ∀ (files' : Files) (path' : Text) (ended' : Bool) (lines' : List Line),
        lines'.Perm lines → files' path' = .ok (Utf8.encode (textOf ended' lines')) →
          Settings.ofFile files' path' = .ok s) ∧
    (¬ Proper lines → ∃ fault, Settings.ofFile files path = .error (.malformed path fault)) := by
  have hofFile {files : Files} {path : Text} {ended : Bool} {lines : List Line}
      (hfile : files path = .ok (Utf8.encode (textOf ended lines))) (h : Proper lines) :
      Settings.ofFile files path = .ok ((take .empty lines).onto .standard) := by
    rw [ofFile_textOf hfile, (read_textOf ended lines).1 h]
    rfl
  constructor
  · intro hproper
    refine ⟨_, hofFile hfile hproper, named_take hproper, ?_⟩
    intro files' path' ended' lines' hperm hfile'
    have hproper' := hproper.perm hperm
    rw [hofFile hfile' hproper', (named_take hproper).unique (named_take hproper')
      fun line => hperm.mem_iff]
  · intro hnot
    obtain ⟨fault, hfault⟩ := (read_textOf ended lines).2 hnot
    refine ⟨fault, ?_⟩
    rw [ofFile_textOf hfile, hfault]
    rfl

/-- A key that means nothing, between quotes. -/
def noteKey : Yaml.Key where
  source := "'a note'".toList
  style := .singleQuoted
  text := "a note".toList
  inLine :=
    have inner : Yaml.Quoted.Inner false "a note".toList "a note".toList :=
      Yaml.Quoted.inner_self (by decide)
    .quoted inner
  allowed := List.all_eq_true.mp (by decide)
  short := by decide
  unmarked := by decide

/-- A plain value that is no number. -/
def noteValue : Yaml.OneLine true where
  source := "it's 9:30".toList
  style := .plain
  text := "it's 9:30".toList
  inLine := .plain (by decide)
  allowed := List.all_eq_true.mp (by decide)

/-- An address whose first character is escaped. -/
def anyAddress : QuotedText where
  inner := "\\x5B::]:80".toList
  text := "[::]:80".toList
  means :=
    have rest : Yaml.Quoted.Inner true "::]:80".toList "::]:80".toList :=
      Yaml.Quoted.inner_self (by decide)
    .cons (@Yaml.Quoted.Piece.code true 'x' '[' "5B".toList 0x5B rfl rfl (by decide) (by decide))
      rest
  allowed := List.all_eq_true.mp (by decide)

/-- The largest body of all, a note, and the address. -/
def withNote : List Line :=
  [.maxBody 18446744073709551615, .other noteKey noteValue (by decide), .listen anyAddress]

/-- The largest number of 64 bits is taken, a key between quotes is passed over, and an escape is
read. One more line, and the body is named twice; one more byte, and it is too large. -/
theorem largest_body_is_taken :
    let lines := "max_body_bytes: 18446744073709551615\n'a note': it's 9:30\n" ++
      "listen_addr: \"\\x5B::]:80\""
    let path := "gateway.yaml".toList
    (∃ s, Settings.ofFile (fun _ => .ok (octets lines)) path = .ok s ∧
      s.maxBody = 18446744073709551615 ∧ s.listen = "[::]:80".toList ∧ s.timeoutSeconds = 30) ∧
    (∃ fault, Settings.ofFile (fun _ => .ok (octets (lines ++ "\nmax_body_bytes: 1\n"))) path =
      .error (.malformed path fault)) ∧
    ∃ fault, Settings.ofFile (fun _ => .ok (octets "max_body_bytes: 18446744073709551616")) path =
      .error (.malformed path fault) := by
  intro lines path
  refine ⟨?_, ?_, ?_⟩
  · have hfile : octets lines = Utf8.encode (textOf false withNote) :=
      congrArg Utf8.encode (by decide +kernel)
    have hfits : ∀ line ∈ withNote, line.Fits := by
      rintro line (_ | ⟨_, _ | ⟨_, _ | ⟨_, ⟨⟩⟩⟩⟩)
      · exact ⟨by decide, by decide⟩
      · exact trivial
      · exact trivial
    have hproper : Proper withNote := ⟨by decide, hfits⟩
    obtain ⟨s, hs, hnamed, -⟩ :=
      (ofFile_takes_lines_in_any_order (fun _ => .ok (octets lines)) path false withNote
        (congrArg Except.ok hfile)).1 hproper
    refine ⟨s, hs, hnamed.maxBody.1 _ (.head _) _ rfl,
      hnamed.listen.1 _ (.tail _ (.tail _ (.head _))) _ rfl, hnamed.timeoutSeconds.2 ?_⟩
    simp [withNote, Line.layer, Layer.empty]
  · have hfile : octets (lines ++ "\nmax_body_bytes: 1\n") =
        Utf8.encode (textOf true (withNote ++ [.maxBody 1])) :=
      congrArg Utf8.encode (by decide +kernel)
    refine (ofFile_takes_lines_in_any_order _ path true (withNote ++ [.maxBody 1])
      (congrArg Except.ok hfile)).2 fun hproper => ?_
    exact absurd hproper.once (by decide)
  · have hfile : octets "max_body_bytes: 18446744073709551616" =
        Utf8.encode (textOf false [.maxBody 18446744073709551616]) :=
      congrArg Utf8.encode (by decide +kernel)
    refine (ofFile_takes_lines_in_any_order _ path false [.maxBody 18446744073709551616]
      (congrArg Except.ok hfile)).2 fun hproper => ?_
    exact absurd (hproper.fits _ (.head _)).2 (by decide)

end SettingsFile

end JobsGateway
