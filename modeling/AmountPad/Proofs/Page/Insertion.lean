import Mathlib
import AmountPad.Proofs.Page.Order

/-!
# Where an element is put

Adding an element changes the children of one node of the table, but document order is told by the
whole tree. So it has to be traced through the recursion what one more child does to the list of all
nodes: behind the node that takes the element, and behind all that was below it, there is one entry
more, and all other entries stand as they did. A lookup by class goes by document order, and finds
the element in the same place.

* `Document.carries` — whether a node has a class, as a lookup asks for it.

Main results:

* `Document.preorder_append_of_notMem`, `Document.preorder_append_of_mem` — what is listed below a
  node before and after;
* `Document.append_inserts_once` — document order and lookups by class, before and after.
-/

namespace AmountPad.Page

open scoped List

namespace Document

variable {d : Document}

/-! ## What is below a node -/

section

variable (hd : d.WellFormed) (parent : Handle) (e : Element)
include hd

/-- Below the new node there is nothing else. -/
theorem preorder_append_size : (d.append parent e).preorder d.size = [d.size] := by
  have hp := parentFor_lt_size hd.nonempty parent
  rw [preorder_eq (hd.append parent e), children_append hd.nonempty, if_neg (Nat.ne_of_gt hp),
    children_of_size_le (Nat.le_refl _)]
  rfl

/-- What is below a node stays as it is if the receiver of the element is not below it. -/
theorem preorder_append_of_notMem {h : Nat} (hp : d.parentFor parent ∉ d.preorder h) :
    (d.append parent e).preorder h = d.preorder h := by
  induction h using hd.induction with
  | step h ih =>
    rw [preorder_eq hd, List.mem_cons, List.mem_flatMap, not_or] at hp
    obtain ⟨hne, hbelow⟩ := hp
    rw [preorder_eq (hd.append parent e), children_append hd.nonempty, if_neg (Ne.symm hne),
      preorder_eq hd, List.cons.injEq]
    refine ⟨rfl, List.flatMap_congr ?_⟩
    intro c hc
    exact ih c hc fun hmem => hbelow ⟨c, hc, hmem⟩

/-- Below the receiver, the new node comes last. -/
theorem preorder_append_parentFor : (d.append parent e).preorder (d.parentFor parent) =
    d.preorder (d.parentFor parent) ++ [d.size] := by
  set p := d.parentFor parent with hp
  have hchildren : (d.append parent e).children p = d.children p ++ [d.size] := by
    rw [children_append hd.nonempty, if_pos hp]
  -- children come after their parent, so that it is not below any of them
  have hrest : (d.children p).flatMap (d.append parent e).preorder =
      (d.children p).flatMap d.preorder := by
    refine List.flatMap_congr fun c hc => preorder_append_of_notMem hd parent e ?_
    intro hmem
    have hle := le_of_mem_preorder hd hmem
    have hlt := (hd.child_range hc).1
    exact absurd hlt (Nat.not_lt_of_le hle)
  rw [preorder_eq (hd.append parent e), hchildren, List.flatMap_append, hrest,
    List.flatMap_singleton, preorder_append_size hd, preorder_eq hd p, List.cons_append]

/-- Below a node above the receiver, the new node comes right behind what was below the receiver. -/
theorem preorder_append_of_mem {h : Nat} (hmem : d.parentFor parent ∈ d.preorder h) :
    ∃ before after, d.preorder h = before ++ d.preorder (d.parentFor parent) ++ after ∧
      (d.append parent e).preorder h =
        before ++ d.preorder (d.parentFor parent) ++ d.size :: after := by
  set p := d.parentFor parent with hp
  induction h using hd.induction with
  | step h ih =>
    by_cases hhp : h = p
    · refine ⟨[], [], ?_, ?_⟩
      · rw [hhp, List.nil_append, List.append_nil]
      · rw [hhp, List.nil_append]
        exact preorder_append_parentFor hd parent e
    · -- the receiver is below one child, and below none of its siblings
      have hnodup := nodup_preorder hd h
      rw [preorder_eq hd] at hmem hnodup
      obtain ⟨c, hc, hpc⟩ := List.mem_flatMap.mp (List.mem_of_ne_of_mem (Ne.symm hhp) hmem)
      obtain ⟨older, younger, hsplit⟩ := List.append_of_mem hc
      obtain ⟨before, after, hold, hnew⟩ := ih c hc hpc
      have hsame : ∀ siblings : List Nat, p ∉ siblings.flatMap d.preorder →
          siblings.flatMap (d.append parent e).preorder = siblings.flatMap d.preorder := by
        intro siblings hnot
        refine List.flatMap_congr fun x hx => preorder_append_of_notMem hd parent e ?_
        exact fun hpx => hnot (List.mem_flatMap.mpr ⟨x, hx, hpx⟩)
      -- a node is listed once, so that it is below one child only
      have hdisjoint := (List.nodup_cons.mp hnodup).2
      rw [hsplit, List.flatMap_append, List.flatMap_cons, List.nodup_append] at hdisjoint
      obtain ⟨-, hcyounger, hapart⟩ := hdisjoint
      have holder : p ∉ older.flatMap d.preorder := by
        intro hpo
        exact hapart p hpo p (List.mem_append_left _ hpc) rfl
      have hyounger : p ∉ younger.flatMap d.preorder := by
        intro hpy
        exact (List.nodup_append.mp hcyounger).2.2 p hpc p hpy rfl
      -- the older siblings come in front of what was split, the younger ones behind it
      refine ⟨h :: older.flatMap d.preorder ++ before,
        after ++ younger.flatMap d.preorder, ?_, ?_⟩
      · rw [preorder_eq hd, hsplit, List.flatMap_append, List.flatMap_cons, hold]
        simp only [List.append_assoc, List.cons_append]
      · rw [preorder_eq (hd.append parent e), children_append hd.nonempty, if_neg hhp, hsplit,
          List.flatMap_append, List.flatMap_cons, hnew, hsame older holder, hsame younger hyounger]
        simp only [List.append_assoc, List.cons_append]

end

/-! ## Document order -/

/-- The order before and after: some nodes, the new one, and the other nodes. What is below the node
that was asked for stands in front of the new node, without a gap; an unknown node stands for the
body, below which are all nodes. -/
theorem exists_order_append (hd : d.WellFormed) (parent : Handle) (e : Element) :
    ∃ before after, d.order = before ++ after ∧
      (d.append parent e).order = before ++ d.size :: after ∧
      (parent < d.size → d.preorder parent <:+ before) ∧ (d.size ≤ parent → after = []) := by
  rw [order_eq_preorder hd, order_eq_preorder (hd.append parent e)]
  rcases Nat.lt_or_ge parent d.size with hp | hp
  · -- the parent is a node of the document, and receives the new one
    have hreceiver : d.parentFor parent = parent := if_pos hp
    have hmem : d.parentFor parent ∈ d.preorder root := by
      rw [hreceiver]
      exact mem_preorder_root hd hp
    obtain ⟨before, after, hold, hnew⟩ := preorder_append_of_mem hd parent e hmem
    rw [hreceiver] at hold hnew
    refine ⟨before ++ d.preorder parent, after, hold, hnew, ?_, ?_⟩
    · exact fun _ => List.suffix_append _ _
    · exact fun hle => absurd hp (Nat.not_lt_of_le hle)
  · -- where there is no such node, the root receives it, as its last child
    have hreceiver : d.parentFor parent = root := if_neg (Nat.not_lt_of_le hp)
    have hlast := preorder_append_parentFor hd parent e
    rw [hreceiver] at hlast
    refine ⟨d.preorder root, [], (List.append_nil _).symm, hlast, ?_, ?_⟩
    · exact fun hlt => absurd hlt (Nat.not_lt_of_le hp)
    · exact fun _ => rfl

/-! ## Lookups by class -/

/-- Whether a node has a class, as a lookup asks for it. -/
def carries (d : Document) (name : String) (h : Handle) : Bool :=
  (d.element? h).any (·.hasClass name)

theorem carries_append_size (d : Document) (parent : Handle) (e : Element) (name : String) :
    (d.append parent e).carries name d.size = e.hasClass name := by
  unfold carries
  rw [element?_append, if_pos rfl]
  rfl

theorem carries_append_of_ne {x : Nat} (hx : x ≠ d.size) (parent : Handle) (e : Element)
    (name : String) : (d.append parent e).carries name x = d.carries name x := by
  unfold carries
  rw [element?_append, if_neg hx]

/-- A lookup by class finds the old nodes that it found, and between them the new one. -/
theorem byClass_append (hd : d.WellFormed) {parent : Handle} {e : Element}
    {before after : List Handle} (hold : d.order = before ++ after)
    (hnew : (d.append parent e).order = before ++ d.size :: after) (name : String) :
    d.byClass name = before.filter (d.carries name) ++ after.filter (d.carries name) ∧
      (d.append parent e).byClass name =
        before.filter (d.carries name) ++ (if e.hasClass name then [d.size] else []) ++
          after.filter (d.carries name) := by
  -- the nodes of the old order are old, and their elements are the same
  have hlt : ∀ x ∈ before ++ after, x < d.size := by
    intro x hx
    rw [← hold, order_eq_preorder hd] at hx
    exact lt_size_of_mem_preorder hd hd.nonempty hx
  have hsame : ∀ x ∈ before ++ after,
      (d.append parent e).carries name x = d.carries name x := by
    intro x hx
    exact carries_append_of_ne (Nat.ne_of_lt (hlt x hx)) parent e name
  have hbefore : before.filter ((d.append parent e).carries name) =
      before.filter (d.carries name) :=
    List.filter_congr fun x hx => hsame x (List.mem_append_left _ hx)
  have hafter : after.filter ((d.append parent e).carries name) = after.filter (d.carries name) :=
    List.filter_congr fun x hx => hsame x (List.mem_append_right _ hx)
  constructor
  · show d.order.filter (d.carries name) = _
    rw [hold, List.filter_append]
  · show (d.append parent e).order.filter ((d.append parent e).carries name) = _
    rw [hnew, List.filter_append, List.filter_cons, carries_append_size, hbefore, hafter]
    by_cases he : e.hasClass name = true
    · rw [if_pos he, if_pos he, List.append_assoc, List.singleton_append]
    · rw [if_neg he, if_neg he, List.append_nil]

/-- **An element is put in one place.** On every document that can be reached, an added element is
the next node of the table. Document order has it right behind the last of the nodes below the node
that it was added to, or at the very end if there is no such node; the old nodes stand as they did.
A lookup by class finds the element in this place if it has the class. The elements of the old nodes
are the same, and only the node that takes the element has another child. -/
theorem append_inserts_once (hd : d.Reachable) (parent : Handle) (e : Element) :
    ((d.append parent e).size = d.size + 1 ∧ (d.append parent e).element? d.size = some e ∧
      (d.append parent e).children d.size = []) ∧
    (∃ before after, d.order = before ++ after ∧
      (d.append parent e).order = before ++ d.size :: after ∧
      (parent < d.size → d.preorder parent <:+ before) ∧ (d.size ≤ parent → after = []) ∧
      ∀ name,
        d.byClass name = before.filter (d.carries name) ++ after.filter (d.carries name) ∧
        (d.append parent e).byClass name =
          before.filter (d.carries name) ++ (if e.hasClass name then [d.size] else []) ++
            after.filter (d.carries name)) ∧
    (d.append parent e).order.count d.size = 1 ∧ d.order <+ (d.append parent e).order ∧
    (∀ x < d.size, (d.append parent e).element? x = d.element? x) ∧
    (∀ x, x ≠ d.parentFor parent → (d.append parent e).children x = d.children x) ∧
    (d.append parent e).children (d.parentFor parent) =
      d.children (d.parentFor parent) ++ [d.size] := by
  have hw := hd.wellFormed
  have hp := parentFor_lt_size hw.nonempty parent
  obtain ⟨before, after, hold, hnew, hknown, hunknown⟩ := exists_order_append hw parent e
  refine ⟨⟨size_append d parent e, ?element, ?children⟩,
    ⟨before, after, hold, hnew, hknown, hunknown, byClass_append hw hold hnew⟩, ?once, ?old,
    ?elements, ?others, ?receiver⟩
  case element => rw [element?_append, if_pos rfl]
  case children =>
    rw [children_append hw.nonempty, if_neg (Nat.ne_of_gt hp), children_of_size_le (Nat.le_refl _)]
  case once =>
    -- document order lists every node once, the new one too
    have hw' := hw.append parent e
    rw [order, orderFrom_eq_preorder hw', (preorder_root_perm hw').count_eq, size_append]
    exact List.count_eq_one_of_mem List.nodup_range (List.mem_range.mpr (Nat.lt_succ_self _))
  case old =>
    rw [hold, hnew]
    exact List.Sublist.append_left (List.sublist_cons_self _ _) before
  case elements =>
    intro x hx
    rw [element?_append, if_neg (Nat.ne_of_lt hx)]
  case others =>
    intro x hx
    rw [children_append hw.nonempty, if_neg hx]
  case receiver => rw [children_append hw.nonempty, if_pos rfl]

/-- A page with a list of two keys, and a key behind it that is older than the second of them. -/
def shortList : Document :=
  [.append 0 {}, .append 1 { classes := ["keypad"] }, .append 0 { classes := ["keypad"] },
    .append 1 { classes := ["keypad"] }].foldl Document.apply {}

/-- A third key of the list comes behind its second and in front of the key behind the list. What is
added to a node that there is not comes last. -/
theorem append_inserts_once_shortList :
    shortList.Reachable ∧ shortList.order = [0, 1, 2, 4, 3] ∧
      (shortList.append 1 { classes := ["keypad"] }).order = [0, 1, 2, 4, 5, 3] ∧
      (∃ before after, shortList.order = before ++ after ∧
        (shortList.append 1 { classes := ["keypad"] }).order = before ++ 5 :: after ∧
        shortList.preorder 1 <:+ before) ∧
      (shortList.append 9 {}).order = shortList.order ++ [5] := by
  have hd : shortList.Reachable := Reachable.blank.foldl _
  obtain ⟨-, ⟨before, after, hold, hnew, hknown, -⟩, -⟩ :=
    append_inserts_once hd 1 { classes := ["keypad"] }
  obtain ⟨-, ⟨all, none, hall, hlast, -, hunknown, -⟩, -⟩ := append_inserts_once hd 9 {}
  refine ⟨hd, rfl, rfl, ⟨before, after, hold, hnew, hknown (by decide)⟩, ?_⟩
  rw [hlast, hall, hunknown (by decide), List.append_nil]
  rfl

end Document

end AmountPad.Page
