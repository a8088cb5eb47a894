import Mathlib
import AmountPad.Proofs.Page.Tree

/-!
# Document order

Every document that can be reached is a tree over its table of nodes. The walk over a stack, which
knows nothing of trees, ends on it after one step for each node, and it meets the nodes as a
recursion from the body to the children does: every node once, before all that is below it, with
what is below it in one piece, and siblings as they were added.

* `Document.IsChild` — parents and children; `Relation.TransGen d.IsChild` are the nodes above and
  below each other;
* `Document.ListsTree` — what makes a list of nodes a list in document order.

Main results:

* `Document.walk_eq_ite` — how many steps a walk takes;
* `Document.mem_preorder_iff` — the nodes below a node, by recursion and as a relation;
* `Document.listsTree_preorder` — the recursion from the body lists the tree;
* `Document.order_lists_tree` — so does the walk, on every document that can be reached.
-/

namespace AmountPad.Page

open scoped List

namespace Document

variable {d : Document}

/-- Whether a node is the parent of another. -/
def IsChild (d : Document) (parent child : Handle) : Prop := child ∈ d.children parent

/-! ## The length of a walk -/

/-- A walk that has fewer steps than nodes to list does not end. -/
theorem walk_eq_none (hd : d.WellFormed) (steps : Nat) (stack : List Nat)
    (hs : steps < (stack.flatMap d.preorder).length) : d.walk steps stack = none := by
  induction steps generalizing stack with
  | zero =>
    cases stack with
    | nil => exact absurd hs (Nat.lt_irrefl 0)
    | cons h rest => rfl
  | succ steps ih =>
    cases stack with
    | nil => exact absurd hs (Nat.not_lt_zero _)
    | cons h rest =>
      -- the step lists the top of the stack, and too few are left for the others
      rw [List.flatMap_cons, preorder_eq hd h, List.cons_append, List.length_cons,
        ← List.flatMap_append] at hs
      rw [walk, ih _ (Nat.lt_of_succ_lt_succ hs), Option.map_none]

/-- The walk from a node takes one step for each node below it and one for itself: it ends with
these nodes as soon as it has as many steps, and not before. -/
theorem walk_singleton_eq_ite (hd : d.WellFormed) (steps h : Nat) :
    d.walk steps [h] =
      if (d.preorder h).length ≤ steps then some (d.preorder h) else none := by
  have hstack : [h].flatMap d.preorder = d.preorder h := List.flatMap_singleton _ _
  split
  · next hs => rw [walk_eq_flatMap hd steps [h] (by rwa [hstack]), hstack]
  · next hs => exact walk_eq_none hd steps [h] (by rw [hstack]; exact Nat.lt_of_not_le hs)

/-- The walk from the body takes one step for each node of the document. -/
theorem walk_eq_ite (hd : d.WellFormed) (steps : Nat) :
    d.walk steps [root] = if d.size ≤ steps then some d.order else none := by
  have hlength : (d.preorder root).length = d.size := by
    simpa using (preorder_root_perm hd).length_eq
  rw [walk_singleton_eq_ite hd, hlength, order_eq_preorder hd]

/-! ## Above and below -/

/-- The nodes below a node by recursion are those that a chain of children leads to. -/
theorem mem_preorder_iff (hd : d.WellFormed) {h x : Nat} :
    x ∈ d.preorder h ↔ Relation.ReflTransGen d.IsChild h x := by
  constructor
  · intro hx
    induction h using hd.induction with
    | step h ih =>
      rw [preorder_eq hd, List.mem_cons, List.mem_flatMap] at hx
      rcases hx with rfl | ⟨c, hc, hx⟩
      · exact .refl
      · exact .head hc (ih c hc hx)
  · intro hx
    induction hx with
    | refl => exact self_mem_preorder hd h
    | tail _ hc ih => exact mem_preorder_of_child hd ih hc

/-- What is below a node stands in one piece among what is below a node above it. -/
theorem preorder_in_one_piece (hd : d.WellFormed) {h x : Nat} (hx : x ∈ d.preorder h) :
    d.preorder x <:+: d.preorder h := by
  induction h using hd.induction with
  | step h ih =>
    have hcons := preorder_eq hd h
    rw [hcons, List.mem_cons, List.mem_flatMap] at hx
    rcases hx with rfl | ⟨c, hc, hx⟩
    · exact List.infix_refl _
    · -- the piece of the child is one of those that make up the rest of the list
      obtain ⟨before, after, hsplit⟩ := List.append_of_mem hc
      have hpiece : d.preorder c <:+: d.preorder h :=
        ⟨h :: before.flatMap d.preorder, after.flatMap d.preorder, by rw [hcons, hsplit]; simp⟩
      exact (ih c hc hx).trans hpiece

/-- Nodes stand in the order in which their pieces stand. -/
theorem sublist_flatMap_preorder (hd : d.WellFormed) (l : List Nat) :
    l <+ l.flatMap d.preorder := by
  induction l with
  | nil => exact List.Sublist.slnil
  | cons h rest ih =>
    rw [List.flatMap_cons, preorder_eq hd h, List.cons_append]
    exact (ih.trans (List.sublist_append_right _ _)).cons_cons h

/-- A node stands before a node below it. -/
theorem pair_sublist_preorder (hd : d.WellFormed) {h x : Nat}
    (hx : Relation.TransGen d.IsChild h x) : [h, x] <+ d.preorder h := by
  obtain ⟨c, hc, hbelow⟩ := Relation.TransGen.head'_iff.mp hx
  have hrest : x ∈ (d.children h).flatMap d.preorder :=
    List.mem_flatMap.mpr ⟨c, hc, (mem_preorder_iff hd).mpr hbelow⟩
  rw [preorder_eq hd h]
  exact (List.singleton_sublist.mpr hrest).cons_cons h

/-! ## Lists in document order -/

/-- A list of nodes in document order. -/
structure ListsTree (d : Document) (order : List Handle) : Prop where
  /-- It is the list that the recursion over the children gives. -/
  recursion : order = d.preorder root ∧
    ∀ h, d.preorder h = h :: (d.children h).flatMap d.preorder
  /-- Every node of the table stands in it once, and nothing else. -/
  nodes : order ~ List.range d.size
  /-- A node stands before all nodes below it. -/
  above_first : ∀ h x, h < d.size → Relation.TransGen d.IsChild h x → [h, x] <+ order
  /-- A node and the nodes below it stand in one piece. -/
  contiguous : ∀ h < d.size, d.preorder h <:+: order ∧
    ∀ x, x ∈ d.preorder h ↔ Relation.ReflTransGen d.IsChild h x
  /-- Siblings stand as they were added. -/
  siblings : ∀ h < d.size, d.children h <+ order

/-- The recursion from the body lists the tree. -/
theorem listsTree_preorder (hd : d.WellFormed) : d.ListsTree (d.preorder root) where
  recursion := ⟨rfl, preorder_eq hd⟩
  nodes := preorder_root_perm hd
  above_first := fun _h _x hh hx =>
    (pair_sublist_preorder hd hx).trans (preorder_in_one_piece hd (mem_preorder_root hd hh)).sublist
  contiguous := fun _h hh =>
    ⟨preorder_in_one_piece hd (mem_preorder_root hd hh), fun _x => mem_preorder_iff hd⟩
  siblings := by
    intro h hh
    have hchildren : d.children h <+ d.preorder h := by
      rw [preorder_eq hd h]
      exact (sublist_flatMap_preorder hd _).trans (List.sublist_cons_self _ _)
    exact hchildren.trans (preorder_in_one_piece hd (mem_preorder_root hd hh)).sublist

/-- **Document order lists a tree.** Of every document that can be reached, each node but the body
is a child of exactly one node, which comes before it in the table, and children stand in ascending
order. The walk from the body ends after one step for each node, and lists the tree. -/
theorem order_lists_tree (hd : d.Reachable) :
    (∀ c, c ≠ root → c < d.size → ∃! p, d.IsChild p c) ∧
      (∀ p c, d.IsChild p c → p < c ∧ c < d.size) ∧
      (∀ p, (d.children p).Pairwise (· < ·)) ∧
      (∀ steps, d.walk steps [root] = if d.size ≤ steps then some d.order else none) ∧
      d.ListsTree d.order := by
  have hw := hd.wellFormed
  refine ⟨?parent, fun p c hc => hw.child_range hc, hw.increasing, walk_eq_ite hw, ?order⟩
  case parent =>
    intro c hc hlt
    obtain ⟨p, hp⟩ := hw.has_parent (Nat.pos_of_ne_zero hc) hlt
    exact ⟨p, hp, fun q hq => hw.parent_unique hq hp⟩
  case order =>
    rw [order, orderFrom_eq_preorder hw]
    exact listsTree_preorder hw

/-- A document whose third node is put under the first one, the fourth under a node that there is
not, and the fifth under itself. -/
def straggling : Document :=
  [.append 0 {}, .append 0 {}, .append 1 {}, .append 99 {}, .append 5 {}].foldl Document.apply {}

theorem order_lists_tree_straggling :
    straggling.walk 6 [root] = some [0, 1, 3, 2, 4, 5] ∧ straggling.walk 5 [root] = none ∧
      (∃! p, straggling.IsChild p 5) ∧ [1, 3] <:+: straggling.order := by
  have hd : straggling.Reachable := Reachable.blank.foldl _
  obtain ⟨hparent, -, -, hwalk, hlists⟩ := order_lists_tree hd
  have hpiece := (hlists.contiguous 1 (by decide)).1
  refine ⟨?_, ?_, hparent 5 (by decide) (by decide), hpiece⟩
  · rw [hwalk]
    rfl
  · rw [hwalk]
    rfl

end Document

end AmountPad.Page
