import AmountPad.Yaml.Event

/-!
# The document of a text

A configuration is the one document of its text. Its events are kept as items in which every alias
is a number, and a table leads from the numbers to the nodes that they stand for. An anchor takes as
its number how many names were known before it; a name that is used again is known already, so that
its new number may be given a second time to a later name, whose node both then stand for.
-/

namespace AmountPad.Yaml

inductive Item where
  | scalar (tag : Option Tag) (text : String) (style : Style)
  | sequenceStart (tag : Option Tag)
  | sequenceEnd
  | mappingStart (tag : Option Tag)
  | mappingEnd
  | aliasOf (number : Nat)
  /-- What a text without a document holds. -/
  | nothing
  deriving DecidableEq, Repr

/-- Items, each with its place. -/
abbrev Items := List (Item × Mark)

structure Document where
  items : Items
  /-- From the numbers of anchors to positions among the items; the first entry counts. -/
  targets : List (Nat × Nat)
  /-- What ends the items before their time. -/
  fault : Option Fault
  /-- Whether the text goes on behind the document. -/
  hasMore : Bool
  deriving DecidableEq, Repr

namespace Document

/-- The anchors met so far: the number of each name, and the node of each number. -/
structure Anchors where
  names : List (String × Nat) := []
  targets : List (Nat × Nat) := []

/-- Notes the anchor of a node at a position. -/
def Anchors.note (a : Anchors) (anchor : Option String) (position : Nat) : Anchors :=
  match anchor with
  | none => a
  | some name =>
    let number := a.names.length
    ⟨(name, number) :: a.names.filter (·.1 != name), (number, position) :: a.targets⟩

/-- A text without a document. -/
def blank (mark : Mark) : Document := ⟨[(.nothing, mark)], [], none, false⟩

/-- Puts an item in front. -/
def cons (item : Item) (mark : Mark) (d : Document) : Document :=
  { d with items := (item, mark) :: d.items }

/-- Whether events remain behind a document. -/
def goesOn (fault : Option Fault) : List (Event × Mark) → Bool
  | [] => fault.isSome
  | (.textEnd, _) :: _ => false
  | _ => true

/-- The items of a document from its events, the first of which stands at a position. -/
def collect (fault : Option Fault) : Nat → Anchors → List (Event × Mark) → Document
  | _, a, [] => ⟨[], a.targets, fault, false⟩
  | position, a, (event, mark) :: rest =>
    let go (anchor : Option String) (item : Item) :=
      (collect fault (position + 1) (a.note anchor position) rest).cons item mark
    match event with
    | .documentStart => collect fault position a rest
    | .documentEnd => ⟨[], a.targets, none, goesOn fault rest⟩
    | .textEnd => blank mark
    | .aliasOf name =>
      match a.names.lookup name with
      | some number => go none (.aliasOf number)
      | none => ⟨[], a.targets, some (.unknownAnchor mark), false⟩
    | .scalar anchor tag text style => go anchor (.scalar tag text style)
    | .sequenceStart anchor tag => go anchor (.sequenceStart tag)
    | .sequenceEnd => go none .sequenceEnd
    | .mappingStart anchor tag => go anchor (.mappingStart tag)
    | .mappingEnd => go none .mappingEnd

/-- The first document of a list of events. -/
def ofEvents (es : EventList) : Document := collect es.fault 0 {} es.events

/-- The first document of a text. -/
def ofText (text : List Char) : Document := ofEvents (EventList.ofText text)

end Document

end AmountPad.Yaml
