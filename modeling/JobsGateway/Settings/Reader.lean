import JobsGateway.Settings.Basic
import JobsGateway.Url.Parser
import JobsGateway.Yaml.Document
import JobsGateway.Yaml.Found

/-!
# Settings in a file

A settings file is a YAML mapping. Its keys may come in any order, each at most once, and those that
are missing keep their values; keys of other names do not matter, whatever they hold. An alias
counts as the node that its anchor marks. The nodes are taken one after the other, so the first
thing that is wrong is the one that is reported; what is wrong after the mapping comes last.
-/

namespace JobsGateway

/-- The keys of a settings file. -/
inductive SettingsKey where
  | listen
  | backendUrl
  | timeout
  | identityUrl
  | maxBody
  deriving Repr, DecidableEq, Inhabited

namespace SettingsKey

/-- All keys. -/
def all : List SettingsKey := [.listen, .backendUrl, .timeout, .identityUrl, .maxBody]

/-- A key as it is written. -/
def name : SettingsKey → Text
  | .listen => "listen_addr".toList
  | .backendUrl => "upstream_url".toList
  | .timeout => "request_timeout_secs".toList
  | .identityUrl => "identity_url".toList
  | .maxBody => "max_body_bytes".toList

/-- The key that is written so. -/
def named? (name : Text) : Option SettingsKey :=
  all.find? fun key => key.name = name

end SettingsKey

/-- Whether a layer names the setting of a key. -/
def Layer.has (l : Layer) : SettingsKey → Bool
  | .listen => l.listen.isSome
  | .backendUrl => l.backendUrl.isSome
  | .timeout => l.timeoutSeconds.isSome
  | .identityUrl => l.identityUrl.isSome
  | .maxBody => l.maxBody.isSome

namespace SettingsFile

/-- Why a node does not fit where it stands. -/
inductive Misfit where
  | kind (found : Text) (expected : String)
  | tagged (mismatch : Yaml.CoreSchema.Mismatch)
  | url (text : Text) (fault : UrlError)
  | nothing
  deriving Repr, DecidableEq, Inhabited

/-- The sentence about a misfit. -/
def Misfit.text : Misfit → Text
  | .kind found expected =>
    "invalid type: ".toList ++ found ++ ", expected ".toList ++ expected.toList
  | .tagged m =>
    "invalid value: string ".toList ++ Text.quoted m.text ++ ", expected ".toList ++
      m.expected.toList
  | .url t fault => fault.message.toList ++ ": ".toList ++ Text.quoted t
  | .nothing => "EOF while parsing a value".toList

/-- What a node is in: the file as a whole, the value of a key, or the value of a key that is not
written out itself. -/
inductive Place where
  | file
  | value (key : SettingsKey)
  | unnamed
  deriving Repr, DecidableEq, Inhabited

/-- How a message begins that is about a place. -/
def Place.text : Place → Text
  | .file => []
  | .value key => key.name ++ ": ".toList
  | .unnamed => "?: ".toList

/-- Why a text holds no settings. -/
inductive Fault where
  | document (fault : Yaml.DocumentFault)
  | misfit (place : Place) (misfit : Misfit) (mark : Yaml.Mark)
  | duplicate (key : SettingsKey) (mark : Yaml.Mark)
  | ended
  | moreDocuments
  deriving Repr, DecidableEq, Inhabited

/-- The sentence about a fault, with its place. -/
def Fault.text : Fault → Text
  | .document (.malformed fault) => fault.text
  | .document (.unknownAnchor mark) => "unknown anchor".toList ++ mark.textUnlessTop
  | .misfit place m mark => place.text ++ m.text ++ mark.textUnlessTop
  | .duplicate key mark =>
    "duplicate field `".toList ++ key.name ++ ['`'] ++ mark.textUnlessTop
  | .ended => "EOF while parsing a value".toList
  | .moreDocuments =>
    "deserializing from YAML containing more than one document is not supported".toList

/-! ## Values -/

/-- Why a node is not what was expected. -/
def misfit (expected : String) : Yaml.Node → Misfit
  | .scalar s =>
    match Yaml.CoreSchema.ofScalar s with
    | .ok value => .kind value.described expected
    | .error mismatch => .tagged mismatch
  | .sequenceStart => .kind "sequence".toList expected
  | .mappingStart => .kind "map".toList expected
  | _ => .nothing

/-- The text of a node. Any scalar is text, whatever else it may mean. -/
def readText (expected : String) : Yaml.Node → Except Misfit Text
  | .scalar s => .ok s.text
  | node => .error (misfit expected node)

/-- The URL of a node. -/
def readUrl (node : Yaml.Node) : Except Misfit Url := do
  let t ← readText "a string representing an URL" node
  (Url.parse t).mapError (.url t)

/-- Whether a scalar may be read as a whole number: it is plain, or a literal block that is tagged
as one. -/
def mayBeInteger (s : Yaml.Scalar) : Bool :=
  s.style = .plain || (s.style = .literal && s.tag = some (Yaml.CoreSchema.standardTag "int"))

/-- The natural number of a node, if it fits in 64 bits. -/
def readNatural (expected : String) (node : Yaml.Node) : Except Misfit Nat :=
  match node with
  | .scalar s =>
    match if mayBeInteger s then Yaml.CoreSchema.natural? Text.word s.text else none with
    | some n => .ok n
    | none => .error (misfit expected node)
  | _ => .error (misfit expected node)

/-- The layer with the setting of a key read from a node. -/
def readValue (layer : Layer) (key : SettingsKey) (node : Yaml.Node) : Except Misfit Layer :=
  match key with
  | .listen => (readText "a string" node).map fun t => { layer with listen := some t }
  | .backendUrl => (readUrl node).map fun url => { layer with backendUrl := some url }
  | .timeout => (readNatural "u64" node).map fun n => { layer with timeoutSeconds := some n }
  | .identityUrl => (readUrl node).map fun url => { layer with identityUrl := some url }
  | .maxBody => (readNatural "usize" node).map fun n => { layer with maxBody := some n }

/-! ## The mapping -/

/-- What comes next in the mapping: a key or its end, the value of a key, a value that does not
matter, or the rest of one with so many collections open. -/
inductive Awaited where
  | key
  | value (key : SettingsKey) (place : Place)
  | unused
  | closing (depth : Nat)
  deriving Repr, DecidableEq, Inhabited

/-- What is wrong with a document that has no more nodes. -/
def ending (d : Yaml.Document) : Fault :=
  match d.fault with
  | some fault => .document fault
  | none => .ended

/-- What comes after a node inside a value that does not matter. -/
def afterUnused (depth : Nat) : Yaml.Node → Awaited
  | .sequenceStart => .closing (depth + 1)
  | .mappingStart => .closing (depth + 1)
  | .sequenceEnd => if depth ≤ 1 then .key else .closing (depth - 1)
  | .mappingEnd => if depth ≤ 1 then .key else .closing (depth - 1)
  | _ => if depth = 0 then .key else .closing depth

/-- What comes after a node that is a key. -/
def afterKey (layer : Layer) (start : Yaml.Mark) (isAlias : Bool) (n : Yaml.PlacedNode) :
    Except Fault Awaited :=
  match n.node with
  | .scalar s =>
    match SettingsKey.named? s.text with
    | none => .ok .unused
    | some key =>
      if layer.has key then .error (.duplicate key start)
      else .ok (.value key (if isAlias then .unnamed else .value key))
  | node => .error (.misfit .file (misfit "field identifier" node) n.mark)

/-- Reads the entries of a mapping that began at `start`. -/
def readEntries (d : Yaml.Document) (start : Yaml.Mark) (layer : Layer) (awaited : Awaited) :
    List Yaml.PlacedNode → Except Fault Layer
  | [] => .error (ending d)
  | n :: rest =>
    match awaited with
    | .key =>
      if n.node = .mappingEnd then .ok layer
      else match afterKey layer start n.isAlias (d.resolve n) with
        | .error fault => .error fault
        | .ok next => readEntries d start layer next rest
    | .value key place =>
      let target := d.resolve n
      match readValue layer key target.node with
      | .error misfit => .error (.misfit place misfit target.mark)
      | .ok layer => readEntries d start layer .key rest
    | .unused => readEntries d start layer (afterUnused 0 n.node) rest
    | .closing depth => readEntries d start layer (afterUnused depth n.node) rest

/-- Reads the root of a document. -/
def readRoot (d : Yaml.Document) : Except Fault Layer :=
  match d.nodes with
  | [] => .error (ending d)
  | n :: rest =>
    match n.node with
    | .mappingStart => readEntries d n.mark .empty .key rest
    | .nothing => .ok .empty
    | node =>
      if node.isEmptyPlain then .ok .empty
      else .error (.misfit .file (misfit "struct Config" node) n.mark)

/-- The settings that a text names. -/
def read (text : Text) : Except Fault Layer := do
  let (d, more) := Yaml.Document.ofText text
  let layer ← readRoot d
  match d.fault with
  | some fault => throw (.document fault)
  | none => if more then throw .moreDocuments else pure layer

end SettingsFile

end JobsGateway
