/-!
# Elements and events

* `Element` — what one node of a page says about itself: tag, identifier, text, classes and
  attributes;
* `Event` — what a user does to a page: a click on a node, or a key pressed somewhere.
-/

namespace AmountPad.Page

/-- The number of a node. Nodes are numbered in the order in which they came into being; a page
need not have a node of a given number. -/
abbrev Handle := Nat

structure Element where
  tag : String := "div"
  /-- The identifier, empty if the element has none. -/
  id : String := ""
  /-- The element's own text. -/
  text : String := ""
  /-- The classes in the order in which they were added, each once. -/
  classes : List String := []
  /-- The attributes, each name once. -/
  attributes : List (String × String) := []
  deriving DecidableEq, Repr

namespace Element

def hasClass (e : Element) (name : String) : Bool := e.classes.contains name

/-- Adds a class that is not there yet. -/
def addClass (e : Element) (name : String) : Element :=
  if e.hasClass name then e else { e with classes := e.classes ++ [name] }

def attribute? (e : Element) (name : String) : Option String := e.attributes.lookup name

/-- Gives an attribute a value, in place of the one it had. -/
def setAttribute (e : Element) (name value : String) : Element :=
  { e with attributes := e.attributes.filter (·.1 != name) ++ [(name, value)] }

/-- The tags whose elements take typed text. -/
def inputTags : List String := ["input", "textarea"]

/-- Whether the element takes typed text: by its tag, or because it is declared editable. -/
def isEditable (e : Element) : Bool :=
  inputTags.contains e.tag || (e.attribute? "contenteditable").any (· != "false")

theorem hasClass_addClass (e : Element) (name other : String) :
    (e.addClass name).hasClass other = (e.hasClass other || other == name) := by
  unfold addClass
  split
  · next h =>
    by_cases ho : other = name
    · simp [ho, h]
    · simp [ho]
  · by_cases ho : other = name <;> simp [hasClass, ho]

end Element

/-- What a user does to a page. -/
inductive Event where
  | click (target : Handle)
  /-- A key press, and the node that had the focus. -/
  | keyDown (key : String) (target : Option Handle)
  deriving DecidableEq, Repr

end AmountPad.Page
