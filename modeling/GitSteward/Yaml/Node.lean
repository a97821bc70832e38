-- The tree of a YAML document. A text that breaks off gives the tree of what comes before:
-- collections that were open end there, and a value that was due is missing.
import GitSteward.Yaml.Event
import GitSteward.Yaml.Token.Stream

namespace GitSteward.Yaml

/-- A node of a document, and where it starts. -/
inductive Node where
  | scalar (mark : Mark) (scalar : Scalar)
  | sequence (mark : Mark) (tag : Option TagBytes) (items : List Node)
  | mapping (mark : Mark) (tag : Option TagBytes) (entries : List (Node × Node))
  /-- the node that was anchored under the number `target` -/
  | alias (mark : Mark) (target : Nat)
  /-- a node that was due where the text breaks off -/
  | missing
deriving Inhabited

/-- Where a node starts. -/
def Node.mark : Node → Mark
  | .scalar m _ | .sequence m _ _ | .mapping m _ _ | .alias m _ => m
  | .missing => {}

/-- The first document of a text. -/
structure Document where
  /-- the tree, or nothing where the text holds no document -/
  root : Option Node
  /-- anchored nodes by number -/
  anchors : List (Nat × Node) := []
  /-- why the document breaks off, if it does -/
  broken : Option Malformed := none
  /-- whether the text goes on after the document -/
  more : Bool := false
deriving Inhabited

/-- The node that an alias stands for. -/
def Document.target (d : Document) (number : Nat) : Node :=
  (d.anchors.lookup number).getD .missing

/-! ## The tree of a list of events -/

/-- A collection that is open: its anchor and its parts so far, last to first. -/
inductive OpenNode where
  | sequence (slot : Option Nat) (mark : Mark) (tag : Option TagBytes) (items : List Node)
  | mapping (slot : Option Nat) (mark : Mark) (tag : Option TagBytes)
      (entries : List (Node × Node)) (key : Option Node)
deriving Inhabited

/-- The place among the anchors of an open collection. -/
def OpenNode.slot : OpenNode → Option Nat
  | .sequence slot .. | .mapping slot .. => slot

/-- An open collection with one more node. -/
def OpenNode.add (node : Node) : OpenNode → OpenNode
  | .sequence slot m tag items => .sequence slot m tag (node :: items)
  | .mapping slot m tag entries none => .mapping slot m tag entries (some node)
  | .mapping slot m tag entries (some key) => .mapping slot m tag ((key, node) :: entries) none

/-- The node of an open collection that ends here. A key without a value is one whose value
is missing. -/
def OpenNode.close : OpenNode → Node
  | .sequence _ m tag items => .sequence m tag items.reverse
  | .mapping _ m tag entries none => .mapping m tag entries.reverse
  | .mapping _ m tag entries (some key) => .mapping m tag ((key, .missing) :: entries).reverse

/-- The state between two events of a document. -/
structure Growth where
  /-- open collections, innermost first -/
  stack : List OpenNode := []
  root : Option Node := none
  /-- the number of each anchor's name -/
  names : List (String × Nat) := []
  /-- the number of each anchored node, by the order of the nodes, last first -/
  slots : List Nat := []
  /-- anchored nodes that are done, by their place in that order -/
  anchored : List (Nat × Node) := []
deriving Inhabited

namespace Growth

variable (g : Growth)

/-- Sets an anchor for the node that starts here. Its number is that of the names known
before, so a name that is set again may share its number with another. -/
def bind : Option String → Option Nat × Growth
  | none => (none, g)
  | some name =>
    let number := g.names.length
    let names := (name, number) :: g.names.filter (·.1 ≠ name)
    (some g.slots.length, { g with names := names, slots := number :: g.slots })

/-- Files a node that is done. -/
def file (slot : Option Nat) (node : Node) : Growth :=
  let anchored := match slot with
    | some place => (place, node) :: g.anchored
    | none => g.anchored
  let g := { g with anchored := anchored }
  match g.stack with
  | [] => { g with root := g.root.or (some node) }
  | top :: stack => { g with stack := top.add node :: stack }

/-- Opens a collection. -/
def openNode (node : OpenNode) : Growth := { g with stack := node :: g.stack }

/-- Closes the innermost collection. -/
def closeNode : Growth :=
  match g.stack with
  | [] => g
  | top :: stack => { g with stack := stack }.file top.slot top.close

/-- The state after one more event of the document. -/
def step (event : Event) : Except Malformed Growth :=
  match event.kind with
  | .alias name =>
    match g.names.lookup name with
    | some number => .ok (g.file none (.alias event.start number))
    | none => .error .unknownAnchor
  | .scalar anchor scalar =>
    let (slot, g) := g.bind anchor
    .ok (g.file slot (.scalar event.start scalar))
  | .sequenceStart properties =>
    let (slot, g) := g.bind properties.anchor
    .ok (g.openNode (.sequence slot event.start properties.tag []))
  | .mappingStart properties =>
    let (slot, g) := g.bind properties.anchor
    .ok (g.openNode (.mapping slot event.start properties.tag [] none))
  | .sequenceEnd | .mappingEnd => .ok g.closeNode
  | .documentStart | .documentEnd | .streamEnd => .ok g

/-- The document that was read. A number that several nodes share is that of the last. -/
def finish (broken : Option Malformed) (more : Bool) : Document :=
  let g := g.stack.foldl (fun g _ => g.closeNode) g
  let root := if broken.isSome then g.root.or (some .missing) else g.root
  let places := g.slots.zip (List.range g.slots.length).reverse
  let anchors := places.filterMap fun (number, place) =>
    (g.anchored.lookup place).map fun node => (number, node)
  { root := root, anchors := anchors, broken := broken, more := more }

/-- Reads the events of a document up to its end. -/
def read (broken : Option Malformed) : List Event → Growth → Document
  | [], g => g.finish (some (broken.getD .order)) false
  | event :: events, g =>
    match event.kind with
    | .streamEnd => g.finish none false
    | .documentEnd =>
      let more := match events with
        | next :: _ => decide (next.kind ≠ .streamEnd)
        | [] => true
      g.finish none more
    | _ =>
      match g.step event with
      | .ok g => read broken events g
      | .error e => g.finish (some e) false

end Growth

/-- The first document of an event stream. -/
def Document.ofEvents (stream : EventStream) : Document :=
  Growth.read stream.broken stream.events {}

/-- The first document of a text. -/
def Document.ofText (text : String) : Document :=
  .ofEvents (.ofTokens (.ofText text))

end GitSteward.Yaml
