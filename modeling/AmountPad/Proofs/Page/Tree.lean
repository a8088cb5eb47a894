import Mathlib
import AmountPad.Page.Document

/-!
# Documents are trees

A document is only ever changed by adding an element under a node, by changing the element of a
node, and by what is noted in its history. So it stays a tree: a child comes after its parent in the
table of nodes, and every node but the body is a child of exactly one node. This module shows that
the walk over a stack always ends on such a document, and that it lists the nodes as the recursion
over the children does.

* `Document.Edit`, `Document.Reachable` — the changes, and the documents that they lead to;
* `Document.WellFormed` — the tree invariant;
* `Document.preorder` — the nodes below a node by recursion.

Main results:

* `Document.Reachable.wellFormed` — every document that can be reached is a tree;
* `Document.orderFrom_eq_preorder`, `Document.order_eq_preorder` — on a tree, the walk lists the nodes
  as the recursion does;
* `Document.preorder_root_perm` — every node of a tree is listed once.
-/

namespace AmountPad.Page

open scoped List

namespace Document

variable {d : Document}

/-! ## Changes of a document -/

/-- One change of a document. -/
inductive Edit where
  /-- Adds an element as the last child of a node. -/
  | append (parent : Handle) (e : Element)
  /-- Changes the element of a node. -/
  | change (h : Handle) (f : Element → Element)
  | record (event : Event)
  | forget

/-- The document after a change. -/
def apply (d : Document) : Edit → Document
  | .append parent e => d.append parent e
  | .change h f => d.edit h f
  | .record event => d.record event
  | .forget => d.clearHistory

/-- The documents that changes of a blank document lead to. -/
inductive Reachable : Document → Prop
  | blank : Reachable {}
  | apply {d : Document} (edit : Edit) : Reachable d → Reachable (d.apply edit)

/-- Several edits one after the other lead from documents that can be reached to such ones. -/
theorem Reachable.foldl (hd : d.Reachable) (edits : List Edit) :
    (edits.foldl Document.apply d).Reachable := by
  induction edits generalizing d with
  | nil => exact hd
  | cons edit rest ih => exact ih (hd.apply edit)

/-! ## What the operations do to nodes -/

theorem children_eq (d : Document) (h : Handle) :
    d.children h = (d.nodes[h]?.map Node.children).getD [] := by
  rw [children]
  cases d.nodes[h]? <;> rfl

theorem children_of_size_le {h : Nat} (hh : d.size ≤ h) : d.children h = [] := by
  rw [children_eq, List.getElem?_eq_none hh]
  rfl

@[simp] theorem size_edit (d : Document) (h : Handle) (f : Element → Element) :
    (d.edit h f).size = d.size := by
  simp [edit, size]

@[simp] theorem children_edit (d : Document) (h : Handle) (f : Element → Element) (x : Handle) :
    (d.edit h f).children x = d.children x := by
  simp only [children_eq, edit, List.getElem?_modify]
  split <;> cases d.nodes[x]? <;> rfl

theorem element?_edit (d : Document) (h : Handle) (f : Element → Element) (x : Handle) :
    (d.edit h f).element? x = if h = x then (d.element? x).map f else d.element? x := by
  simp only [element?, edit, List.getElem?_modify]
  split <;> cases d.nodes[x]? <;> rfl

@[simp] theorem size_append (d : Document) (parent : Handle) (e : Element) :
    (d.append parent e).size = d.size + 1 := by
  simp [append, size]

/-- The parent that is chosen for a new node is a node of the document. -/
theorem parentFor_lt_size (hd : 0 < d.size) (parent : Handle) :
    (d.parentFor parent : Nat) < d.size := by
  rw [parentFor]
  split
  · assumption
  · exact hd

/-- A parent that the document has is taken as it is. -/
theorem parentFor_of_lt {parent : Handle} (hp : parent < d.size) : d.parentFor parent = parent := by
  rw [parentFor, if_pos hp]

/-- The new node has no children, and only its parent has one more. -/
theorem children_append (hd : 0 < d.size) (parent : Handle) (e : Element) (x : Nat) :
    (d.append parent e).children x =
      if x = d.parentFor parent then d.children x ++ [d.size] else d.children x := by
  have hp := parentFor_lt_size hd parent
  rcases Nat.lt_trichotomy x d.size with hx | rfl | hx
  · have hget : d.nodes[x]? = some d.nodes[x] := List.getElem?_eq_getElem hx
    rw [children_eq, append, List.getElem?_append_left (by simpa [size] using hx),
      List.getElem?_modify, children_eq, hget]
    -- an old node: only the parent of the new one is changed
    by_cases hxp : x = d.parentFor parent
    · simp [hxp]
    · simp [hxp, Ne.symm hxp]
  · rw [if_neg (Nat.ne_of_gt hp), children_of_size_le (Nat.le_refl _)]
    -- the new node has no children yet
    simp [children, append, size]
  · rw [if_neg (Nat.ne_of_gt (Nat.lt_trans hp hx)), children_of_size_le (Nat.le_of_lt hx)]
    exact children_of_size_le (by rw [size_append]; exact hx)

/-- A new element is that of the new node, and the others keep theirs. -/
theorem element?_append (d : Document) (parent : Handle) (e : Element) (x : Nat) :
    (d.append parent e).element? x = if x = d.size then some e else d.element? x := by
  rcases Nat.lt_trichotomy x d.size with hx | rfl | hx
  · rw [if_neg (Nat.ne_of_lt hx), element?, append,
      List.getElem?_append_left (by simpa [size] using hx), List.getElem?_modify, element?]
    split <;> cases d.nodes[x]? <;> rfl
  · rw [if_pos rfl]
    simp [element?, append, size]
  · have hlast : (d.append parent e).nodes.length ≤ x := by
      rw [show (d.append parent e).nodes.length = d.size + 1 from size_append d parent e]
      exact hx
    rw [if_neg (Nat.ne_of_gt hx), element?, element?, List.getElem?_eq_none hlast,
      List.getElem?_eq_none (Nat.le_of_lt hx)]

/-! ## The tree invariant -/

/-- A document whose first node is the root of a tree over all of them. -/
structure WellFormed (d : Document) : Prop where
  nonempty : 0 < d.size
  /-- Children come after their parent. -/
  child_range : ∀ {h c : Nat}, c ∈ d.children h → h < c ∧ c < d.size
  /-- Children stand in the order in which they were added. -/
  increasing : ∀ h : Nat, (d.children h).Pairwise (· < ·)
  has_parent : ∀ {c : Nat}, 0 < c → c < d.size → ∃ h, c ∈ d.children h
  parent_unique : ∀ {c h h' : Nat}, c ∈ d.children h → c ∈ d.children h' → h = h'

theorem wellFormed_blank : WellFormed {} where
  nonempty := by simp [size]
  child_range := by
    intro h c hc
    cases h <;> simp [children] at hc
  increasing := by
    intro h
    cases h <;> simp [children]
  has_parent := by
    intro c h0 h1
    simp only [size, List.length_cons, List.length_nil] at h1
    omega
  parent_unique := by
    intro c h h' hc
    cases h <;> simp [children] at hc

/-- Documents with the same nodes below each other are trees together. -/
theorem WellFormed.of_children_eq {d' : Document} (hd : d.WellFormed) (hs : d'.size = d.size)
    (hc : ∀ h, d'.children h = d.children h) : d'.WellFormed where
  nonempty := hs ▸ hd.nonempty
  child_range := by
    intro h c hm
    rw [hc] at hm
    rw [hs]
    exact hd.child_range hm
  increasing := by
    intro h
    rw [hc]
    exact hd.increasing h
  has_parent := by
    intro c h0 h1
    rw [hs] at h1
    simp only [hc]
    exact hd.has_parent h0 h1
  parent_unique := by
    intro c h h' hm hm'
    rw [hc] at hm hm'
    exact hd.parent_unique hm hm'

/-- A tree with a node more is a tree. -/
theorem WellFormed.append (hd : d.WellFormed) (parent : Handle) (e : Element) :
    (d.append parent e).WellFormed := by
  have hp := parentFor_lt_size hd.nonempty parent
  -- a child of the new document is an old one, or the new node below its parent
  have hmem : ∀ {h c : Nat}, c ∈ (d.append parent e).children h ↔
      c ∈ d.children h ∨ h = d.parentFor parent ∧ c = d.size := by
    intro h c
    rw [children_append hd.nonempty]
    split <;> simp_all
  refine ⟨by simp, ?_, ?_, ?_, ?_⟩
  · intro h c hc
    rw [size_append]
    rcases hmem.mp hc with hc | ⟨rfl, rfl⟩
    · have := hd.child_range hc
      omega
    · exact ⟨hp, Nat.lt_succ_self _⟩
  · intro h
    rw [children_append hd.nonempty]
    split
    · rw [List.pairwise_append]
      -- the new node is the greatest and stands last
      refine ⟨hd.increasing h, List.pairwise_singleton _ _, ?_⟩
      intro a ha b hb
      rw [List.mem_singleton.mp hb]
      exact (hd.child_range ha).2
    · exact hd.increasing h
  · intro c h0 hc
    rw [size_append] at hc
    -- an old node keeps its parent, and the new node has got one
    rcases Nat.lt_or_ge c d.size with hlt | hge
    · obtain ⟨h, hh⟩ := hd.has_parent h0 hlt
      exact ⟨h, hmem.mpr (Or.inl hh)⟩
    · exact ⟨d.parentFor parent, hmem.mpr (Or.inr ⟨rfl, by omega⟩)⟩
  · intro c h h' hc hc'
    rcases hmem.mp hc with hc | ⟨rfl, rfl⟩ <;> rcases hmem.mp hc' with hc' | ⟨rfl, hc'⟩
    · exact hd.parent_unique hc hc'
    · exact absurd (hd.child_range hc).2 (by omega)
    · exact absurd (hd.child_range hc').2 (by omega)
    · rfl

theorem WellFormed.apply (hd : d.WellFormed) (edit : Edit) : (d.apply edit).WellFormed := by
  cases edit with
  | append parent e => exact hd.append parent e
  | change h f => exact hd.of_children_eq (size_edit d h f) (children_edit d h f)
  | record event => exact hd.of_children_eq rfl fun _ => rfl
  | forget => exact hd.of_children_eq rfl fun _ => rfl

/-- Every document that changes lead to is a tree. -/
theorem Reachable.wellFormed (hd : d.Reachable) : d.WellFormed := by
  induction hd with
  | blank => exact wellFormed_blank
  | apply edit _ ih => exact ih.apply edit

/-! ## The nodes below a node -/

/-- A node and all nodes below it, each before its children. A tree is no deeper than it has
nodes. -/
def preorder (d : Document) (h : Handle) : List Handle := d.subtree d.size h

/-- A depth that reaches the last node is deep enough. -/
theorem subtree_succ (hd : d.WellFormed) :
    ∀ (depth h : Nat), 0 < depth → d.size ≤ depth + h →
      d.subtree (depth + 1) h = d.subtree depth h := by
  intro depth
  induction depth with
  | zero => intro h h0; exact absurd h0 (Nat.lt_irrefl 0)
  | succ depth ih =>
    intro h _ hs
    rw [subtree, subtree, List.cons.injEq]
    refine ⟨rfl, List.flatMap_congr ?_⟩
    intro c hc
    -- a child comes after its parent, so that one level less is still enough below it
    have := hd.child_range hc
    exact ih c (by omega) (by omega)

/-- In document order a node is followed by what is below its children, child by child. -/
theorem preorder_eq (hd : d.WellFormed) (h : Nat) :
    d.preorder h = h :: (d.children h).flatMap d.preorder := by
  have hs := subtree_succ hd d.size h hd.nonempty (Nat.le_add_right _ _)
  calc d.preorder h = d.subtree (d.size + 1) h := hs.symm
    _ = h :: (d.children h).flatMap d.preorder := rfl

/-- Recursion from a node to its children, which come after it. -/
theorem WellFormed.induction {motive : Nat → Prop} (hd : d.WellFormed)
    (step : ∀ h, (∀ c ∈ d.children h, motive c) → motive h) (h : Nat) : motive h := by
  induction hn : d.size - h using Nat.strong_induction_on generalizing h with
  | _ n ih =>
    refine step h fun c hc => ih (d.size - c) ?_ c rfl
    have := hd.child_range hc
    omega

/-- The nodes below a node are the node and the children of those nodes. -/
theorem preorder_perm (hd : d.WellFormed) (h : Nat) :
    d.preorder h ~ h :: (d.preorder h).flatMap d.children := by
  induction h using hd.induction with
  | step h ih =>
    -- what is below the children is the children and what is below those
    have hstep : (d.children h).flatMap d.preorder ~
        d.children h ++ ((d.children h).flatMap d.preorder).flatMap d.children :=
      calc (d.children h).flatMap d.preorder
          ~ (d.children h).flatMap fun c => [c] ++ (d.preorder c).flatMap d.children :=
            List.Perm.flatMap_left _ ih
        _ ~ (d.children h).flatMap (fun c => [c]) ++
            (d.children h).flatMap fun c => (d.preorder c).flatMap d.children :=
            (List.flatMap_append_perm _ _ _).symm
        _ = d.children h ++ ((d.children h).flatMap d.preorder).flatMap d.children := by
            simp [List.flatMap_assoc]
    rw [preorder_eq hd h, List.flatMap_cons]
    exact hstep.cons h

theorem self_mem_preorder (hd : d.WellFormed) (h : Nat) : h ∈ d.preorder h := by
  rw [preorder_eq hd]
  exact List.mem_cons_self

/-- Nothing below a node comes before it. -/
theorem le_of_mem_preorder (hd : d.WellFormed) {h x : Nat} (hx : x ∈ d.preorder h) : h ≤ x := by
  induction h using hd.induction with
  | step h ih =>
    rw [preorder_eq hd, List.mem_cons, List.mem_flatMap] at hx
    rcases hx with rfl | ⟨c, hc, hx⟩
    · exact Nat.le_refl x
    · exact Nat.le_trans (Nat.le_of_lt (hd.child_range hc).1) (ih c hc hx)

/-- What is below a node of a document is in the document. -/
theorem lt_size_of_mem_preorder (hd : d.WellFormed) {h x : Nat} (hh : h < d.size)
    (hx : x ∈ d.preorder h) : x < d.size := by
  induction h using hd.induction with
  | step h ih =>
    rw [preorder_eq hd, List.mem_cons, List.mem_flatMap] at hx
    rcases hx with rfl | ⟨c, hc, hx⟩
    · exact hh
    · exact ih c hc (hd.child_range hc).2 hx

/-- The children of a node are below everything that the node is below. -/
theorem mem_preorder_of_child (hd : d.WellFormed) {h x c : Nat} (hx : x ∈ d.preorder h)
    (hc : c ∈ d.children x) : c ∈ d.preorder h := by
  rw [(preorder_perm hd h).mem_iff]
  exact List.mem_cons_of_mem _ (List.mem_flatMap.mpr ⟨x, hx, hc⟩)

/-- The root is above every node. -/
theorem mem_preorder_root (hd : d.WellFormed) {x : Nat} (hx : x < d.size) :
    x ∈ d.preorder root := by
  induction x using Nat.strong_induction_on with
  | _ x ih =>
    rcases Nat.eq_zero_or_pos x with rfl | h0
    · exact self_mem_preorder hd root
    · obtain ⟨p, hp⟩ := hd.has_parent h0 hx
      -- the parent comes before its child and is below the root already
      have hlt := (hd.child_range hp).1
      exact mem_preorder_of_child hd (ih p hlt (Nat.lt_trans hlt hx)) hp

/-! ## Every node once -/

/-- A node is a child of its parent once, and of no other node. -/
theorem count_children (hd : d.WellFormed) {p c : Nat} (hp : c ∈ d.children p) (x : Nat) :
    (d.children x).count c = if x = p then 1 else 0 := by
  split
  · next hx =>
    rw [hx]
    exact List.count_eq_one_of_mem ((hd.increasing p).imp Nat.ne_of_lt) hp
  · next hx => exact List.count_eq_zero.mpr fun hc => hx (hd.parent_unique hc hp)

/-- Among the children of several nodes, a node stands as often as its parent among them. -/
theorem count_flatMap_children (hd : d.WellFormed) {p c : Nat} (hp : c ∈ d.children p)
    (l : List Nat) : (l.flatMap d.children).count c = l.count p := by
  induction l with
  | nil => rfl
  | cons x rest ih =>
    rw [List.flatMap_cons, List.count_append, ih, count_children hd hp, List.count_cons]
    simp only [beq_iff_eq]
    omega

/-- Below a node, no node is listed twice. -/
theorem count_preorder_le (hd : d.WellFormed) (h x : Nat) : (d.preorder h).count x ≤ 1 := by
  induction x using Nat.strong_induction_on with
  | _ x ih =>
    rw [(preorder_perm hd h).count_eq, List.count_cons]
    -- a node is listed as often as its parent, which comes before it; a root by itself
    by_cases hpar : ∃ p, x ∈ d.children p
    · obtain ⟨p, hp⟩ := hpar
      rw [count_flatMap_children hd hp]
      by_cases hhx : h = x
      · -- the parent of the first node comes before it, so it is not below it
        have hnot : p ∉ d.preorder h := fun hm =>
          absurd (le_of_mem_preorder hd hm) (Nat.not_le_of_gt (hhx ▸ (hd.child_range hp).1))
        simp [hhx, List.count_eq_zero.mpr (hhx ▸ hnot)]
      · simpa [hhx] using ih p (hd.child_range hp).1
    · have hzero : ((d.preorder h).flatMap d.children).count x = 0 := by
        rw [List.count_eq_zero, List.mem_flatMap]
        rintro ⟨p, -, hp⟩
        exact hpar ⟨p, hp⟩
      rw [hzero]
      split <;> omega

/-- No node comes twice in document order. -/
theorem nodup_preorder (hd : d.WellFormed) (h : Nat) : (d.preorder h).Nodup :=
  List.nodup_iff_count_le_one.mpr (count_preorder_le hd h)

/-- The nodes in document order are the nodes of the table, each once. -/
theorem preorder_root_perm (hd : d.WellFormed) : d.preorder root ~ List.range d.size := by
  rw [List.perm_ext_iff_of_nodup (nodup_preorder hd root) List.nodup_range]
  intro x
  rw [List.mem_range]
  exact ⟨lt_size_of_mem_preorder hd hd.nonempty, mem_preorder_root hd⟩

/-- There are no more nodes below a node than in the document. -/
theorem length_preorder_le (hd : d.WellFormed) (h : Nat) : (d.preorder h).length ≤ d.size := by
  rcases Nat.lt_or_ge h d.size with hh | hh
  · have hsub : d.preorder h ⊆ List.range d.size := fun x hx =>
      List.mem_range.mpr (lt_size_of_mem_preorder hd hh hx)
    simpa using ((nodup_preorder hd h).subperm hsub).length_le
  · rw [preorder_eq hd, children_of_size_le hh]
    exact hd.nonempty

/-! ## The walk over a stack -/

/-- With enough steps, a walk lists what is below the nodes on its stack, from the top down. Each
step takes one node off this list, which is the measure of the walk. -/
theorem walk_eq_flatMap (hd : d.WellFormed) (steps : Nat) (stack : List Nat)
    (hs : (stack.flatMap d.preorder).length ≤ steps) :
    d.walk steps stack = some (stack.flatMap d.preorder) := by
  induction steps generalizing stack with
  | zero =>
    cases stack with
    | nil => rfl
    | cons h rest =>
      rw [List.flatMap_cons, preorder_eq hd h] at hs
      exact absurd hs (Nat.not_succ_le_zero _)
  | succ steps ih =>
    cases stack with
    | nil => rfl
    | cons h rest =>
      -- a step replaces the top of the stack by its children
      have hcons : (h :: rest).flatMap d.preorder =
          h :: (d.children h ++ rest).flatMap d.preorder := by
        rw [List.flatMap_cons, preorder_eq hd h, List.flatMap_append, List.cons_append]
      rw [hcons, List.length_cons] at hs
      rw [walk, ih _ (Nat.le_of_succ_le_succ hs), hcons]
      rfl

/-- The walk from a node ends, with the nodes below it. -/
theorem walk_singleton (hd : d.WellFormed) (h : Nat) :
    d.walk d.size [h] = some (d.preorder h) := by
  rw [walk_eq_flatMap hd d.size [h] (by simpa using length_preorder_le hd h)]
  simp

/-- The walk from a node lists the nodes as the recursion over the children does. -/
theorem orderFrom_eq_preorder (hd : d.WellFormed) (h : Nat) : d.orderFrom h = d.preorder h := by
  rw [orderFrom, walk_singleton hd]
  rfl

/-- On a tree, the walk lists the nodes as the recursion does. -/
theorem order_eq_preorder (hd : d.WellFormed) : d.order = d.preorder root := by
  rw [order, orderFrom_eq_preorder hd]

end Document

end AmountPad.Page
