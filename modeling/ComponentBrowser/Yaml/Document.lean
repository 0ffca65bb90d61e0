import ComponentBrowser.Yaml.Event
import ComponentBrowser.Yaml.Lexer

/-!
# ComponentBrowser.Yaml.Document

Documents as trees of nodes.  An alias stays an alias in the tree and is looked
up when the tree is read, so that a node may hold an alias to itself.

An anchor is known by a number: how many different names anchors have had
before it.  Where a name is used again the next number is taken, and the next
new name takes it over; an alias read before then stands for the new node.
-/

namespace ComponentBrowser.Yaml

/-- A node. -/
inductive Node where
  | scalar (s : Scalar)
  | sequence (items : List Node)
  | mapping (entries : List (Node × Node))
  /-- What stands at an anchor, by the number of the anchor. -/
  | alias (anchor : Nat)

/-- A document: its node, if it has one, and what stands at its anchors. -/
structure Document where
  root? : Option Node
  /-- The nodes with anchors, by their place among all nodes. -/
  anchored : List (Nat × Node)
  /-- The place that the number of an anchor stands for. -/
  places : List (Nat × Nat)

namespace Document

/-- What stands at an anchor. -/
def anchored? (d : Document) (anchor : Nat) : Option Node :=
  (d.places.lookup anchor).bind fun place => d.anchored.lookup place

/-- A node, or what its alias stands for. -/
def resolve (d : Document) : Node → Option Node
  | .alias anchor => d.anchored? anchor
  | node => some node

end Document

/-! ## building -/

/-- A collection that has not ended. -/
structure OpenNode where
  /-- Its place among all nodes, if it has an anchor. -/
  place? : Option Nat
  isMapping : Bool
  /-- The nodes in it, the last first; in a mapping keys and values alternate. -/
  items : List Node

/-- A document that is being built. -/
structure Construction where
  /-- The open collections, from the inside out. -/
  unclosed : List OpenNode
  document : Document
  /-- How many nodes have begun. -/
  begun : Nat
  /-- The number of the anchor that each name stands for. -/
  names : List (String × Nat)

namespace Construction

/-- Before any event. -/
def empty : Construction := ⟨[], ⟨none, [], []⟩, 0, []⟩

/-- A node begins, perhaps with an anchor: its place, if it has one, is noted
for aliases. -/
def enter (c : Construction) (anchor? : Option String) : Option Nat × Construction :=
  match anchor? with
  | none => (none, { c with begun := c.begun + 1 })
  | some name =>
    let number := c.names.length
    let names := (name, number) :: c.names.filter (·.1 != name)
    let places := (number, c.begun) :: c.document.places.filter (·.1 != number)
    (some c.begun, { c with begun := c.begun + 1, names, document := { c.document with places } })

/-- A node is complete. -/
def add (c : Construction) (place? : Option Nat) (node : Node) : Construction :=
  let document := match place? with
    | some place => { c.document with anchored := (place, node) :: c.document.anchored }
    | none => c.document
  match c.unclosed with
  | [] => { c with document := { document with root? := some node } }
  | inner :: outer =>
    { c with document, unclosed := { inner with items := node :: inner.items } :: outer }

/-- The pairs of keys and values, from the last value back to the first key. -/
def pairBackwards (entries : List (Node × Node)) : List Node → List (Node × Node)
  | value :: key :: rest => pairBackwards ((key, value) :: entries) rest
  | _ => entries

/-- The collection that ends. -/
def close (c : Construction) : Construction :=
  match c.unclosed with
  | [] => c
  | inner :: outer =>
    let node :=
      if inner.isMapping then Node.mapping (pairBackwards [] inner.items)
      else Node.sequence inner.items.reverse
    { c with unclosed := outer }.add inner.place? node

/-- Take one event. -/
def step (c : Construction) : Event → Except Fault Construction
  | .scalar anchor? s =>
    let (place?, c) := c.enter anchor?
    .ok (c.add place? (.scalar s))
  | .alias name =>
    match c.names.lookup name with
    | some number => .ok ({ c with begun := c.begun + 1 }.add none (.alias number))
    | none => .error (.unknownAnchor name)
  | .sequenceStart anchor? =>
    let (place?, c) := c.enter anchor?
    .ok { c with unclosed := ⟨place?, false, []⟩ :: c.unclosed }
  | .mappingStart anchor? =>
    let (place?, c) := c.enter anchor?
    .ok { c with unclosed := ⟨place?, true, []⟩ :: c.unclosed }
  | .sequenceEnd | .mappingEnd => .ok c.close

end Construction

/-- The document that events describe. -/
def Document.ofEvents (events : List Event) : Except Fault Document :=
  (events.foldlM Construction.step Construction.empty).map (·.document)

/-- The only document of a stream. -/
def Document.parse (s : String) : Except Fault Document := do
  Document.ofEvents (← Event.ofTokens (← Token.ofText s))

end ComponentBrowser.Yaml
