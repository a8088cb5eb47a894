import Mathlib
import AmountPad.Page.Keypad
import AmountPad.Proofs.Page.Lookup

/-!
# Documents in the order of their table

A document keeps its elements in a table, in the order in which they were added. A page that is
built from top to bottom has them in document order too, so that a lookup finds the first element of
the table that fits.

* `Document.elements` — the elements in the order of the table.

Main results:

* `Document.elements_appendAll`, `Document.children_appendAll` — what adding elements does;
* `Document.byId?_eq_findIdx?`, `Document.byClass_eq_range'` — lookups in the table;
* `Document.textBelow_leaf` — a node without children shows its own text.
-/

namespace AmountPad.Page

namespace Document

variable {d : Document}

/-- The elements in the order in which they were added. -/
def elements (d : Document) : List Element := d.nodes.map Node.element

/-- A handle is a place in the table. -/
theorem element?_eq (d : Document) (h : Handle) : d.element? h = d.elements[h]? := by
  rw [element?, elements, List.getElem?_map]

theorem length_elements (d : Document) : d.elements.length = d.size := List.length_map _

/-! ## Adding several elements -/

/-- A new element goes to the end of the table, wherever its node is put in the tree. -/
theorem elements_append (d : Document) (parent : Handle) (e : Element) :
    (d.append parent e).elements = d.elements ++ [e] := by
  refine List.ext_getElem? fun x => ?_
  rw [← element?_eq, element?_append, List.getElem?_append, length_elements]
  rcases Nat.lt_trichotomy x d.size with hx | rfl | hx
  · rw [if_neg (Nat.ne_of_lt hx), if_pos hx, element?_eq]
  · simp
  · have hnone : d.element? x = none := by
      rw [element?_eq, List.getElem?_eq_none (by rw [length_elements]; exact Nat.le_of_lt hx)]
    rw [if_neg (Nat.ne_of_gt hx), if_neg (Nat.not_lt_of_gt hx), hnone, List.getElem?_eq_none]
    exact Nat.sub_pos_of_lt hx

/-- New elements go to the end of the table in their order. -/
theorem elements_appendAll (d : Document) (parent : Handle) (es : List Element) :
    (d.appendAll parent es).elements = d.elements ++ es := by
  induction es generalizing d with
  | nil => rw [List.append_nil, appendAll, List.foldl_nil]
  | cons e rest ih =>
    have hrest := ih (d.append parent e)
    rw [elements_append, List.append_assoc, List.singleton_append] at hrest
    exact hrest

theorem size_appendAll (d : Document) (parent : Handle) (es : List Element) :
    (d.appendAll parent es).size = d.size + es.length := by
  rw [← length_elements, elements_appendAll, List.length_append, length_elements]

/-- The new nodes have no children, and become the last children of their parent. -/
theorem children_appendAll {parent : Nat} (hp : parent < d.size) (es : List Element) (x : Nat) :
    (d.appendAll parent es).children x =
      if x = parent then d.children x ++ List.range' d.size es.length else d.children x := by
  induction es generalizing d with
  | nil => simp [appendAll]
  | cons e rest ih =>
    have hsize : parent < (d.append parent e).size := by
      rw [size_append]
      exact Nat.lt_succ_of_lt hp
    have hrest := ih hsize
    rw [children_append (Nat.zero_lt_of_lt hp), parentFor_of_lt hp, size_append] at hrest
    refine Eq.trans hrest ?_
    split <;> simp [List.range'_succ]

/-- To add elements one by one leads from documents that can be reached to such ones. -/
theorem Reachable.appendAll (hd : d.Reachable) (parent : Handle) (es : List Element) :
    (d.appendAll parent es).Reachable := by
  induction es generalizing d with
  | nil => exact hd
  | cons e rest ih => exact ih (hd.apply (.append parent e))

/-! ## Lookups where document order is the order of the table -/

/-- To look through places is to look through what stands at them. -/
theorem filter_range' {α : Type} (l : List α) (p : α → Bool) (start : Nat) :
    (List.range' start l.length).filter (fun i => l[i - start]?.any p) =
      ((l.zipIdx start).filter (p ·.1)).map Prod.snd := by
  induction l generalizing start with
  | nil => rfl
  | cons x rest ih =>
    -- behind the first place, the list is that of the rest one place later
    have htail : ∀ i ∈ List.range' (start + 1) rest.length,
        ((x :: rest)[i - start]?).any p = (rest[i - (start + 1)]?).any p := by
      intro i hi
      have hlt := (List.mem_range'_1.mp hi).1
      rw [show i - start = (i - (start + 1)) + 1 by omega, List.getElem?_cons_succ]
    have hrest := ih (start + 1)
    rw [← List.filter_congr htail] at hrest
    rw [List.length_cons, List.range'_succ, List.zipIdx_cons, List.filter_cons, List.filter_cons,
      hrest]
    simp only [Nat.sub_self, List.getElem?_cons_zero, Option.any_some]
    split <;> rfl

theorem filter_range {α : Type} (l : List α) (p : α → Bool) :
    (List.range l.length).filter (fun i => l[i]?.any p) =
      (l.zipIdx.filter (p ·.1)).map Prod.snd := by
  rw [List.range_eq_range']
  exact filter_range' l p 0

/-- A lookup by identifier finds the first place in the table with this identifier. -/
theorem byId?_eq_findIdx? (ho : d.order = List.range d.size) {id : String} (hid : id ≠ "") :
    d.byId? id = d.elements.findIdx? (·.id == id) := by
  rw [byId?, if_neg hid, ho, ← length_elements]
  simp only [element?_eq]
  rw [← List.head?_filter, filter_range, List.head?_map, List.head?_filter,
    List.findIdx?_eq_fst_find?_zipIdx]

/-- Where the elements with a class stand side by side, their nodes do so too. -/
theorem byClass_eq_range' (ho : d.order = List.range d.size) {name : String}
    {before found after : List Element} (he : d.elements = before ++ found ++ after)
    (hbefore : ∀ e ∈ before, e.hasClass name = false) (hfound : ∀ e ∈ found, e.hasClass name = true)
    (hafter : ∀ e ∈ after, e.hasClass name = false) :
    d.byClass name = List.range' before.length found.length := by
  -- the elements in front and behind are passed over
  have hnone : ∀ (l : List Element) (start : Nat), (∀ e ∈ l, e.hasClass name = false) →
      (l.zipIdx start).filter (·.1.hasClass name) = [] := by
    intro l start hl
    rw [List.filter_eq_nil_iff]
    intro x hx
    rw [hl x.1 (List.fst_mem_of_mem_zipIdx hx)]
    exact Bool.false_ne_true
  have hall : (found.zipIdx before.length).filter (·.1.hasClass name) =
      found.zipIdx before.length := by
    rw [List.filter_eq_self]
    exact fun x hx => hfound x.1 (List.fst_mem_of_mem_zipIdx hx)
  rw [byClass, ho, ← length_elements]
  simp only [element?_eq]
  rw [filter_range, he, List.zipIdx_append, List.zipIdx_append, List.filter_append,
    List.filter_append, hnone _ _ hbefore, hnone _ _ hafter]
  simp only [Nat.zero_add, List.nil_append, List.append_nil]
  rw [hall, List.zipIdx_map_snd]

/-! ## Nodes without children -/

/-- Below a node without children there is only the node itself. -/
theorem preorder_leaf (hd : d.WellFormed) {h : Nat} (hc : d.children h = []) :
    d.preorder h = [h] := by
  rw [preorder_eq hd, hc, List.flatMap_nil]

/-- Nodes without children come in document order as they are listed. -/
theorem flatMap_preorder_leaves (hd : d.WellFormed) {l : List Nat}
    (hl : ∀ h ∈ l, d.children h = []) : l.flatMap d.preorder = l := by
  rw [List.flatMap_congr fun h hh => preorder_leaf hd (hl h hh), List.flatMap_singleton']

/-- A node without children shows its own text. -/
theorem textBelow_leaf (hd : d.WellFormed) {h : Nat} (hc : d.children h = []) :
    d.textBelow h = (d.text? h).getD "" := by
  rw [textBelow, preorder_leaf hd hc]
  simp [String.join]

end Document

end AmountPad.Page
