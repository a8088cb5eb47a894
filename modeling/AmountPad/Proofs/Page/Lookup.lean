import Mathlib
import AmountPad.Proofs.Page.Tree

/-!
# What a document says of its nodes

The lookups of a document go by the nodes and their order, and not by the history. A change of the
text of one node leaves them as they are, and it leaves the texts of all other nodes.

* `Document.textBelow` — the text of a node and of all nodes below it, by recursion.

Main results:

* `Document.gather_eq_map_walk` — a walk that gathers texts goes where a walk that lists nodes goes;
* `Document.innerText?_eq` — on a tree, the text that a walk gathers is that of the recursion;
* `Document.byId?_congr` — a lookup depends on the nodes alone;
* `Document.byId?_setText` — and not on their texts;
* `Document.text?_edit`, `Document.text?_append` — what leaves the text of a node alone.
-/

namespace AmountPad.Page

namespace Document

variable {d d' : Document}

/-! ## Only nodes matter -/

theorem size_congr (h : d'.nodes = d.nodes) : d'.size = d.size := by
  rw [size, size, h]

theorem children_congr (h : d'.nodes = d.nodes) (x : Handle) : d'.children x = d.children x := by
  rw [children, children, h]

theorem element?_congr (h : d'.nodes = d.nodes) (x : Handle) : d'.element? x = d.element? x := by
  rw [element?, element?, h]

/-- A walk depends on the children alone. -/
theorem walk_congr (hc : ∀ x, d'.children x = d.children x) (steps : Nat) (stack : List Handle) :
    d'.walk steps stack = d.walk steps stack := by
  induction steps generalizing stack with
  | zero => cases stack <;> rfl
  | succ steps ih =>
    cases stack with
    | nil => rfl
    | cons h rest => rw [walk, walk, hc, ih]

/-- The order below a node depends on the size and the children alone. -/
theorem orderFrom_congr (hs : d'.size = d.size) (hc : ∀ x, d'.children x = d.children x)
    (h : Handle) : d'.orderFrom h = d.orderFrom h := by
  rw [orderFrom, orderFrom, hs, walk_congr hc]

/-- What a lookup by identifier finds does not depend on the history. -/
theorem byId?_congr (h : d'.nodes = d.nodes) (id : String) : d'.byId? id = d.byId? id := by
  simp only [byId?, order, orderFrom_congr (size_congr h) (children_congr h), element?_congr h]

theorem text?_congr (h : d'.nodes = d.nodes) (x : Handle) : d'.text? x = d.text? x := by
  rw [text?, text?, element?_congr h]

/-! ## Nodes that a document has -/

/-- The handles below the size are those of nodes. -/
theorem element?_isSome_iff {h : Nat} : (d.element? h).isSome = true ↔ h < d.size := by
  simp [element?, size]

theorem exists_element?_of_lt {h : Nat} (hh : h < d.size) : ∃ e, d.element? h = some e :=
  Option.isSome_iff_exists.mp (element?_isSome_iff.mpr hh)

theorem element?_eq_none_iff {h : Nat} : d.element? h = none ↔ d.size ≤ h := by
  rw [← Option.not_isSome_iff_eq_none, element?_isSome_iff, Nat.not_lt]

theorem lt_size_of_element?_eq_some {h : Nat} {e : Element} (he : d.element? h = some e) :
    h < d.size :=
  element?_isSome_iff.mp (by rw [he]; rfl)

/-- What is said of the element of a node can only be true if the node exists. -/
theorem lt_size_of_any {h : Nat} {p : Element → Bool} (hp : (d.element? h).any p = true) :
    h < d.size := by
  cases he : d.element? h with
  | none =>
    rw [he] at hp
    exact absurd hp Bool.false_ne_true
  | some e => exact lt_size_of_element?_eq_some he

/-- A lookup by identifier finds nodes of the document only. -/
theorem lt_size_of_byId? {id : String} {h : Nat} (hh : d.byId? id = some h) : h < d.size := by
  rw [byId?] at hh
  split at hh
  · exact absurd hh (by simp)
  · have hid : (d.element? h).any (·.id == id) = true :=
      List.find?_some (p := fun h => (d.element? h).any (·.id == id)) hh
    exact lt_size_of_any hid

theorem lt_size_of_mem_byClass {name : String} {h : Nat} (hh : h ∈ d.byClass name) :
    h < d.size :=
  lt_size_of_any (List.mem_filter.mp hh).2

/-! ## Texts -/

/-- The text of a node and of all nodes below it. -/
def textBelow (d : Document) (h : Handle) : String :=
  String.join ((d.preorder h).map fun n => (d.text? n).getD "")

/-- The walk that gathers texts meets the nodes that the walk of document order lists from the same
stack, in the same order and in as many steps. No tree is needed for that. -/
theorem gather_eq_map_walk (d : Document) (steps : Nat) (text : String) (stack : List Handle) :
    d.gather steps text stack = (d.walk steps stack).map fun visited =>
      text ++ String.join (visited.map fun n => (d.text? n).getD "") := by
  induction steps generalizing text stack with
  | zero =>
    cases stack with
    | nil => rw [gather, walk, Option.map_some, List.map_nil, String.join_nil, String.append_empty]
    | cons h rest => rfl
  | succ steps ih =>
    cases stack with
    | nil => rw [gather, walk, Option.map_some, List.map_nil, String.join_nil, String.append_empty]
    | cons h rest =>
      -- what one walk has put behind the text, the other puts in front of its list
      rw [gather, walk, ih, Option.map_map]
      refine congrArg (Option.map · _) (funext fun visited => ?_)
      rw [Function.comp_apply, List.map_cons, String.join_cons, String.append_assoc]

/-- A node that the document has shows its own text and that of all nodes below it. -/
theorem innerText?_eq (hd : d.WellFormed) {h : Nat} (hh : h < d.size) :
    d.innerText? h = some (d.textBelow h) := by
  obtain ⟨e, he⟩ := exists_element?_of_lt hh
  rw [innerText?, he, Option.map_some, gather_eq_map_walk, walk_singleton hd, Option.map_some,
    Option.getD_some, String.empty_append, textBelow]

/-- The text of a node is missing exactly if the node is. -/
theorem innerText?_eq_none_iff {h : Nat} : d.innerText? h = none ↔ d.size ≤ h := by
  rw [innerText?, Option.map_eq_none_iff, element?_eq_none_iff]

/-- The text of a node with all that is below it does not depend on the history. -/
theorem innerText?_congr (h : d'.nodes = d.nodes) (x : Handle) :
    d'.innerText? x = d.innerText? x := by
  have htext : d'.text? = d.text? := funext (text?_congr h)
  rw [innerText?, innerText?, element?_congr h, gather_eq_map_walk, gather_eq_map_walk, htext,
    size_congr h, walk_congr (children_congr h)]

@[simp] theorem size_setText (d : Document) (h : Handle) (text : String) :
    (d.setText h text).size = d.size := size_edit d h _

@[simp] theorem children_setText (d : Document) (h : Handle) (text : String) (x : Handle) :
    (d.setText h text).children x = d.children x := children_edit d h _ x

/-- A property of elements that no text decides is the same after a change of text. -/
theorem any_element?_setText (d : Document) (h : Handle) (text : String) (x : Handle)
    {p : Element → Bool} (hp : ∀ e : Element, p { e with text := text } = p e) :
    ((d.setText h text).element? x).any p = (d.element? x).any p := by
  rw [setText, element?_edit]
  split
  · cases d.element? x with
    | none => rfl
    | some e => exact hp e
  · rfl

/-- A lookup by identifier finds the same after a change of text. -/
@[simp] theorem byId?_setText (d : Document) (h : Handle) (text id : String) :
    (d.setText h text).byId? id = d.byId? id := by
  -- a search by identifier asks the same of the same nodes
  have hp : ∀ x, ((d.setText h text).element? x).any (·.id == id) =
      (d.element? x).any (·.id == id) := fun x => any_element?_setText d h text x fun _ => rfl
  simp only [byId?, order, orderFrom_congr (size_setText d h text) (children_setText d h text), hp]

/-- A node of the document has a text of its own. -/
theorem text?_eq_some_getD {h : Nat} (hh : h < d.size) :
    d.text? h = some ((d.text? h).getD "") := by
  obtain ⟨e, he⟩ := exists_element?_of_lt hh
  rw [text?, he]
  rfl

/-- A text is missing exactly if its node is. -/
theorem text?_eq_none_iff {h : Nat} : d.text? h = none ↔ d.size ≤ h := by
  rw [text?, Option.map_eq_none_iff, element?_eq_none_iff]

/-- A node of the document has the text that it is given. -/
theorem text?_setText_self {h : Nat} (hh : h < d.size) (text : String) :
    (d.setText h text).text? h = some text := by
  obtain ⟨e, he⟩ := exists_element?_of_lt hh
  rw [text?, setText, element?_edit, if_pos rfl, he]
  rfl

/-- A change of the text of one node leaves the texts of the others. -/
theorem text?_setText_of_ne {h x : Handle} (hx : x ≠ h) (text : String) :
    (d.setText h text).text? x = d.text? x := by
  rw [text?, setText, element?_edit, if_neg (Ne.symm hx), text?]

/-- A change that leaves the text of a node's element leaves the node's text. -/
theorem text?_edit {h x : Handle} {f : Element → Element}
    (hf : h = x → ∀ e, (f e).text = e.text) : (d.edit h f).text? x = d.text? x := by
  rw [text?, text?, element?_edit]
  split
  · next hx =>
    rw [Option.map_map]
    exact congrArg (Option.map · (d.element? x)) (funext (hf hx))
  · rfl

/-- The nodes that are there keep their texts when one is added. -/
theorem text?_append {x : Nat} (hx : x < d.size) (parent : Handle) (e : Element) :
    (d.append parent e).text? x = d.text? x := by
  rw [text?, element?_append, if_neg (Nat.ne_of_lt hx), text?]

end Document

end AmountPad.Page
