import AmountPad.Page.Element

/-!
# Documents

A document is a table of nodes, each with the handles of its children, whose first node is the body.
Nodes are only ever added, as last children, so that a handle stays good for as long as the document
lives.

* `Document.append` — adds an element;
* `Document.order` — the nodes in document order, each before its children, by a walk over a stack;
* `Document.subtree` — the same order by recursion over the children;
* `Document.byId?`, `Document.byClass` — the lookups, which go by document order;
* `Document.gather`, `Document.innerText?` — the text of a node with that of all nodes below it, by a
  walk that keeps the text and no list of nodes.
-/

namespace AmountPad.Page

/-- An element in its place. -/
structure Node where
  element : Element
  children : List Handle := []
  deriving DecidableEq, Repr

structure Document where
  nodes : List Node := [⟨{ tag := "body" }, []⟩]
  /-- The events that were dispatched, oldest first. -/
  history : List Event := []
  deriving DecidableEq, Repr

namespace Document

/-- The handle of the body. -/
def root : Handle := 0

/-- The number of nodes, the body among them. -/
def size (d : Document) : Nat := d.nodes.length

def element? (d : Document) (h : Handle) : Option Element := d.nodes[h]?.map Node.element

/-- The children of a node; an unknown node has none. -/
def children (d : Document) (h : Handle) : List Handle :=
  match d.nodes[h]? with
  | some n => n.children
  | none => []

/-! ## Changes -/

/-- Changes the element of a node; an unknown node stays unknown. -/
def edit (d : Document) (h : Handle) (f : Element → Element) : Document :=
  { d with nodes := d.nodes.modify h fun n => { n with element := f n.element } }

/-- Replaces the text of a node. -/
def setText (d : Document) (h : Handle) (text : String) : Document :=
  d.edit h fun e => { e with text := text }

/-- The node under which an element is put: the one asked for, or the body if that is unknown. -/
def parentFor (d : Document) (parent : Handle) : Handle :=
  if parent < d.size then parent else root

/-- Adds an element as the last child of a node, under the next free handle. -/
def append (d : Document) (parent : Handle) (e : Element) : Document :=
  let parented := d.nodes.modify (d.parentFor parent) fun n =>
    { n with children := n.children ++ [d.size] }
  { d with nodes := parented ++ [⟨e, []⟩] }

/-- Records an event. -/
def record (d : Document) (event : Event) : Document :=
  { d with history := d.history ++ [event] }

def clearHistory (d : Document) : Document := { d with history := [] }

/-! ## Traversal -/

/-- The handles that a walk visits from a stack of handles: the top of the stack, then its children,
then the rest. Nothing if so many steps do not empty the stack. -/
def walk (d : Document) : Nat → List Handle → Option (List Handle)
  | _, [] => some []
  | 0, _ :: _ => none
  | steps + 1, h :: stack => (d.walk steps (d.children h ++ stack)).map (h :: ·)

/-- A node and all nodes below it, each before its children, down to a depth. -/
def subtree (d : Document) : Nat → Handle → List Handle
  | 0, _ => []
  | depth + 1, h => h :: (d.children h).flatMap (d.subtree depth)

/-- The nodes below a node, and the node itself, in document order. A walk takes one step for each
node, so that there are no more steps than nodes. -/
def orderFrom (d : Document) (h : Handle) : List Handle := (d.walk d.size [h]).getD []

/-- All nodes in document order. -/
def order (d : Document) : List Handle := d.orderFrom root

/-! ## Lookups -/

/-- The first element in document order with an identifier. The empty text is no identifier. -/
def byId? (d : Document) (id : String) : Option Handle :=
  if id = "" then none else d.order.find? fun h => (d.element? h).any (·.id == id)

/-- The elements with a class, in document order. -/
def byClass (d : Document) (name : String) : List Handle :=
  d.order.filter fun h => (d.element? h).any (·.hasClass name)

/-- A node's own text, without that of the nodes below it. -/
def text? (d : Document) (h : Handle) : Option String := (d.element? h).map Element.text

/-- The own texts of the nodes that a walk visits from a stack of handles, each put behind the text
gathered so far: the top of the stack, then its children, then the rest. Nothing if so many steps do
not empty the stack. -/
def gather (d : Document) : Nat → String → List Handle → Option String
  | _, text, [] => some text
  | 0, _, _ :: _ => none
  | steps + 1, text, h :: stack =>
    d.gather steps (text ++ (d.text? h).getD "") (d.children h ++ stack)

/-- A node's own text with that of the nodes below it, in document order. As in a walk that lists
nodes, there are no more steps than nodes. -/
def innerText? (d : Document) (h : Handle) : Option String :=
  (d.element? h).map fun _ => (d.gather d.size "" [h]).getD ""

/-- The own text of the element with an identifier. -/
def textById? (d : Document) (id : String) : Option String := (d.byId? id).bind d.text?

/-- Whether a node takes typed text. -/
def isEditable (d : Document) (h : Handle) : Bool := (d.element? h).any Element.isEditable

end Document

end AmountPad.Page
