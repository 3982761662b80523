import JobsGateway.Yaml.EventStream

/-!
# Documents

A document is the list of its nodes as they open and close, and the fault that ended it before its
time, if there was one. An alias points to the place in the list where the node of its anchor
begins. Only the first document of a text is of interest, and whether another one follows.

A text with a control character is no YAML at all, and a byte order mark at its beginning does not
count.
-/

namespace JobsGateway.Yaml

/-- The nodes of a document. `nothing` stands for a text without any document. -/
inductive Node where
  | nothing
  | alias (id : Nat)
  | scalar (scalar : Scalar)
  | sequenceStart
  | sequenceEnd
  | mappingStart
  | mappingEnd
  deriving Repr, DecidableEq, Inhabited

/-- Whether a node is a plain scalar without any text. -/
def Node.isEmptyPlain : Node → Bool
  | .scalar s => s.text = [] && s.style = .plain
  | _ => false

/-- Why a document is not complete. -/
inductive DocumentFault where
  | malformed (fault : Fault)
  | unknownAnchor (mark : Mark)
  deriving Repr, DecidableEq, Inhabited

/-- A node with the place where it begins. -/
structure PlacedNode where
  node : Node
  mark : Mark
  deriving Repr, DecidableEq, Inhabited

/-- Whether a node is an alias. -/
def PlacedNode.isAlias (n : PlacedNode) : Bool :=
  match n.node with
  | .alias _ => true
  | _ => false

/-- A document. `targets` says for each anchor, known by its number, at which position in the list
its node begins. -/
structure Document where
  nodes : List PlacedNode
  targets : List (Nat × Nat)
  fault : Option DocumentFault
  deriving Repr, DecidableEq, Inhabited

namespace Document

/-- The node that an alias stands for; any other node stands for itself. -/
def resolve (d : Document) (n : PlacedNode) : PlacedNode :=
  match n.node with
  | .alias id => ((d.targets.lookup id).bind fun i => d.nodes[i]?).getD n
  | _ => n

/-- A document as far as it is read. The nodes are listed backwards. -/
structure Draft where
  nodes : List PlacedNode
  count : Nat
  anchors : List (Text × Nat)
  targets : List (Nat × Nat)
  deriving Repr, DecidableEq, Inhabited

/-- A document of which nothing has been read. -/
def Draft.empty : Draft := ⟨[], 0, [], []⟩

/-- The draft with one more node. -/
def Draft.add (d : Draft) (node : Node) (mark : Mark) : Draft :=
  { d with nodes := ⟨node, mark⟩ :: d.nodes, count := d.count + 1 }

/-- The draft in which an anchor, if there is one, points to the node that comes next. -/
def Draft.note (d : Draft) : Option Text → Draft
  | none => d
  | some name =>
    let id := d.anchors.length
    { d with
      anchors := (name, id) :: d.anchors.filter fun a => a.1 != name
      targets := (id, d.count) :: d.targets.filter fun t => t.1 != id }

/-- The draft as a document. -/
def Draft.finish (d : Draft) (fault : Option DocumentFault) : Document :=
  ⟨d.nodes.reverse, d.targets, fault⟩

/-- Reads the first document of a stream: the document, and the stream after it unless that has
ended. `room` bounds the number of events. -/
def read (room : Nat) (d : Draft) (s : EventStream) : Document × Option EventStream :=
  match room with
  | 0 => (d.finish none, none)
  | room + 1 =>
    match s.next with
    | .error f => (d.finish (some (.malformed f)), some s)
    | .ok (e, s) =>
      match e.kind with
      | .streamStart => read room d s
      | .documentStart => read room d s
      | .streamEnd =>
        ((if d.nodes = [] then d.add .nothing e.start else d).finish none, none)
      | .documentEnd => (d.finish none, some s)
      | .alias name =>
        match d.anchors.lookup name with
        | some id => read room (d.add (.alias id) e.start) s
        | none => (d.finish (some (.unknownAnchor e.start)), some s)
      | .scalar anchor scalar => read room ((d.note anchor).add (.scalar scalar) e.start) s
      | .sequenceStart anchor => read room ((d.note anchor).add .sequenceStart e.start) s
      | .sequenceEnd => read room (d.add .sequenceEnd e.start) s
      | .mappingStart anchor => read room ((d.note anchor).add .mappingStart e.start) s
      | .mappingEnd => read room (d.add .mappingEnd e.start) s

/-- Whether another document, or a fault, follows. -/
def followsMore (s : EventStream) : Bool :=
  match s.next with
  | .error _ => true
  | .ok (e, _) => e.kind != .streamEnd

/-- How many octets come before the first control character. -/
def controlOffset (text : Text) : Nat :=
  (Utf8.encode (text.takeWhile isAllowed)).length

/-- The first document of a text, and whether there is more after it. -/
def ofText (text : Text) : Document × Bool :=
  if text.all isAllowed then
    let content := match text with
      | '\ufeff' :: rest => rest
      | _ => text
    let (document, rest) := read (20 * (content.length + 5)) .empty (.ofText content)
    (document, rest.any followsMore)
  else
    (Draft.empty.finish
      (some (.malformed ⟨.controlCharacter, .zero, none, controlOffset text⟩)), true)

end Document

end JobsGateway.Yaml
