import Mathlib
import AmountPad.Proofs.Page.Lookup
import AmountPad.Proofs.Page.Order

/-!
# The text of a subtree

What a node shows is gathered by a walk of its own, which keeps a stack and a text and lists no
nodes. It goes where the walk of document order goes, so that on a tree it ends, and what it has
gathered by then can be told in two ways: by recursion, as the own text of the node and the inner
texts of its children, and by document order, as the own texts of the piece that the node and all
nodes below it take up. A new text for one node reaches the inner text of the nodes above it and of
no others, and there only the part that the node has in it.

* `Document.TakesUp` — the piece of document order that belongs to a node.

Main results:

* `Document.gather_singleton_eq_ite` — when the walk from a node ends, and with which text;
* `Document.innerText?_eq_recursion` — the inner text of a node from those of its children;
* `Document.takesUp_iff` — each node of the document has one piece of document order;
* `Document.textBelow_setText_of_mem` — the text of a node stands in one place of an inner text;
* `Document.innerText_reads_subtree` — all of it for every document that can be reached.
-/

namespace AmountPad.Page

open scoped List

namespace Document

variable {d : Document}

/-! ## The end of the walk -/

/-- The walk from a node takes one step for each node below it and one for itself. What it has
gathered then is put behind the text that it began with. -/
theorem gather_singleton_eq_ite (hd : d.WellFormed) (steps : Nat) (text : String) (h : Nat) :
    d.gather steps text [h] =
      if (d.preorder h).length ≤ steps then some (text ++ d.textBelow h) else none := by
  rw [gather_eq_map_walk, walk_singleton_eq_ite hd, textBelow]
  split <;> rfl

/-- As many steps as the document has nodes are enough for what a node shows. -/
theorem gather_size (hd : d.WellFormed) {h : Nat} (hh : h < d.size) :
    d.gather d.size "" [h] = d.innerText? h := by
  rw [gather_singleton_eq_ite hd, if_pos (length_preorder_le hd h), String.empty_append,
    innerText?_eq hd hh]

/-! ## Recursion over the children -/

/-- Texts that are joined in groups. -/
theorem join_flatMap {α : Type} (l : List α) (f : α → List String) :
    String.join (l.flatMap f) = String.join (l.map fun x => String.join (f x)) := by
  induction l with
  | nil => rfl
  | cons x rest ih =>
    rw [List.flatMap_cons, String.join_append, ih, List.map_cons, String.join_cons]

/-- The text of a node with all that is below it is its own and those of its children, one behind
the other. -/
theorem textBelow_eq (hd : d.WellFormed) (h : Nat) :
    d.textBelow h = (d.text? h).getD "" ++ String.join ((d.children h).map d.textBelow) := by
  unfold textBelow
  rw [preorder_eq hd h, List.map_cons, String.join_cons, List.map_flatMap, join_flatMap]

/-- Where a function has a value for every entry of a list, all of them can be had at once. -/
theorem mapM_eq_some_of_forall {α β : Type} {f : α → Option β} {g : α → β} {l : List α}
    (hf : ∀ x ∈ l, f x = some (g x)) : l.mapM f = some (l.map g) := by
  induction l with
  | nil => rfl
  | cons x rest ih =>
    have hx := hf x List.mem_cons_self
    have hrest := ih fun y hy => hf y (List.mem_cons_of_mem x hy)
    rw [List.mapM_cons, hx, hrest]
    rfl

/-- A node shows its own text and behind it what its children show, in their order. -/
theorem innerText?_eq_recursion (hd : d.WellFormed) (h : Nat) :
    d.innerText? h = do
      let own ← d.text? h
      let below ← (d.children h).mapM d.innerText?
      return own ++ String.join below := by
  rcases Nat.lt_or_ge h d.size with hh | hh
  · have hbelow : (d.children h).mapM d.innerText? = some ((d.children h).map d.textBelow) :=
      mapM_eq_some_of_forall fun c hc => innerText?_eq hd (hd.child_range hc).2
    rw [innerText?_eq hd hh, textBelow_eq hd h, text?_eq_some_getD hh, hbelow]
    rfl
  · rw [innerText?_eq_none_iff.mpr hh, text?_eq_none_iff.mpr hh]
    rfl

/-! ## Pieces of document order -/

/-- A node and the nodes below it take up a piece of document order. -/
structure TakesUp (d : Document) (h : Handle) (piece : List Handle) : Prop where
  contiguous : piece <:+: d.order
  mem_iff : ∀ x, x ∈ piece ↔ Relation.ReflTransGen d.IsChild h x

/-- A piece of a list without repetition is what the list has of the entries of the piece. -/
theorem filter_mem_piece {l piece : List Nat} (hl : l.Nodup) (hp : piece <:+: l) :
    l.filter (· ∈ piece) = piece := by
  obtain ⟨before, after, rfl⟩ := hp
  obtain ⟨hfront, -, hafter⟩ := List.nodup_append.mp hl
  obtain ⟨-, -, hbefore⟩ := List.nodup_append.mp hfront
  -- no entry of the piece stands in front of it or behind it
  have hnone : before.filter (· ∈ piece) = [] := by
    rw [List.filter_eq_nil_iff]
    intro x hx hm
    exact hbefore x hx x (of_decide_eq_true hm) rfl
  have hnone' : after.filter (· ∈ piece) = [] := by
    rw [List.filter_eq_nil_iff]
    intro x hx hm
    exact hafter x (List.mem_append_right _ (of_decide_eq_true hm)) x hx rfl
  have hall : piece.filter (· ∈ piece) = piece := by
    rw [List.filter_eq_self]
    exact fun x hx => decide_eq_true hx
  rw [List.filter_append, List.filter_append, hnone, hall, hnone', List.append_nil, List.nil_append]

theorem nodup_order (hd : d.WellFormed) : d.order.Nodup := by
  rw [order_eq_preorder hd]
  exact nodup_preorder hd root

/-- A node of the document takes up the piece that the recursion lists, and no other. -/
theorem takesUp_iff (hd : d.WellFormed) {h : Nat} (hh : h < d.size) {piece : List Nat} :
    d.TakesUp h piece ↔ piece = d.preorder h := by
  have hown : d.TakesUp h (d.preorder h) := by
    refine ⟨?_, fun x => mem_preorder_iff hd⟩
    rw [order_eq_preorder hd]
    exact preorder_in_one_piece hd (mem_preorder_root hd hh)
  constructor
  · intro hp
    -- both pieces are what document order has of the same nodes
    have hsame : ∀ x, x ∈ piece ↔ x ∈ d.preorder h := fun x =>
      (hp.mem_iff x).trans (hown.mem_iff x).symm
    calc piece = d.order.filter (· ∈ piece) :=
          (filter_mem_piece (nodup_order hd) hp.contiguous).symm
      _ = d.order.filter (· ∈ d.preorder h) := by simp only [hsame]
      _ = d.preorder h := filter_mem_piece (nodup_order hd) hown.contiguous
  · rintro rfl
    exact hown

/-- A node shows the own texts of its piece of document order. -/
theorem innerText?_eq_of_takesUp (hd : d.WellFormed) {h : Nat} (hh : h < d.size)
    {piece : List Nat} (hp : d.TakesUp h piece) :
    d.innerText? h = (piece.mapM d.text?).map String.join := by
  rw [(takesUp_iff hd hh).mp hp, innerText?_eq hd hh,
    mapM_eq_some_of_forall fun x hx => text?_eq_some_getD (lt_size_of_mem_preorder hd hh hx)]
  rfl

/-! ## A new text for one node -/

/-- Nodes other than the one with the new text have the texts that they had. -/
theorem map_text?_setText {m : Handle} {l : List Nat} (hm : m ∉ l) (text : String) :
    (l.map fun n => ((d.setText m text).text? n).getD "") = l.map fun n => (d.text? n).getD "" := by
  refine List.map_congr_left fun n hn => ?_
  have hne : n ≠ m := fun he => hm (he ▸ hn)
  rw [text?_setText_of_ne hne]

section

variable (hd : d.WellFormed)
include hd

theorem wellFormed_setText (m : Handle) (text : String) : (d.setText m text).WellFormed :=
  hd.apply (.change m fun e => { e with text := text })

/-- No text decides which nodes are below a node. -/
theorem preorder_setText (m : Handle) (text : String) (h : Nat) :
    (d.setText m text).preorder h = d.preorder h := by
  rw [← orderFrom_eq_preorder (wellFormed_setText hd m text),
    orderFrom_congr (size_setText d m text) (children_setText d m text), orderFrom_eq_preorder hd]

/-- A change of text shows only in the nodes above it and in its own. -/
theorem textBelow_setText_of_notMem {m h : Nat} (hm : m ∉ d.preorder h) (text : String) :
    (d.setText m text).textBelow h = d.textBelow h := by
  rw [textBelow, preorder_setText hd, map_text?_setText hm, textBelow]

/-- What is shown above a node has the own text of the node in one place, and a new text for the
node changes nothing else of it. -/
theorem textBelow_setText_of_mem {m h : Nat} (hsize : m < d.size) (hm : m ∈ d.preorder h) :
    ∃ front back, d.textBelow h = front ++ (d.text? m).getD "" ++ back ∧
      ∀ text, (d.setText m text).textBelow h = front ++ text ++ back := by
  obtain ⟨before, after, hsplit⟩ := List.append_of_mem hm
  -- the node is listed once, so that what is in front of it and behind it are other nodes
  have hnodup := nodup_preorder hd h
  rw [hsplit, List.nodup_middle, List.nodup_cons, List.mem_append, not_or] at hnodup
  obtain ⟨⟨hbefore, hafter⟩, -⟩ := hnodup
  refine ⟨String.join (before.map fun n => (d.text? n).getD ""),
    String.join (after.map fun n => (d.text? n).getD ""), ?_, fun text => ?_⟩
  · rw [textBelow, hsplit, List.map_append, List.map_cons, String.join_append, String.join_cons,
      String.append_assoc]
  · rw [textBelow, preorder_setText hd, hsplit, List.map_append, List.map_cons,
      map_text?_setText hbefore, map_text?_setText hafter, text?_setText_self hsize,
      String.join_append, String.join_cons, Option.getD_some, String.append_assoc]

end

/-- **A node shows the text of its subtree.** On every document that can be reached, and for every
node: the walk that gathers what the node shows takes one step for each node below it and one for
itself, and so it ends within as many steps as the document has nodes. A node shows no text, not
even an empty one, exactly if the document does not have it. Else it shows its own text, and behind
it what its children show; and these are the own texts of the piece of document order that the node
and the nodes below it take up. A new text for a node changes what is shown by this node and by
those above it, in the one place that the node has there, and it changes nothing that other nodes
show. -/
theorem innerText_reads_subtree (hd : d.Reachable) (h : Handle) :
    ((d.preorder h).length ≤ d.size ∧ ∀ steps text, d.gather steps text [h] =
        if (d.preorder h).length ≤ steps then some (text ++ d.textBelow h) else none) ∧
      (d.innerText? h = none ↔ d.size ≤ h) ∧
      (h < d.size → d.innerText? h = d.gather d.size "" [h]) ∧
      (d.innerText? h = do
        let own ← d.text? h
        let below ← (d.children h).mapM d.innerText?
        return own ++ String.join below) ∧
      (h < d.size → (∃! piece, d.TakesUp h piece) ∧
        ∀ piece, d.TakesUp h piece → d.innerText? h = (piece.mapM d.text?).map String.join) ∧
      (∀ m, ¬Relation.ReflTransGen d.IsChild h m →
        ∀ text, (d.setText m text).innerText? h = d.innerText? h) ∧
      (h < d.size → ∀ m, Relation.ReflTransGen d.IsChild h m →
        ∃ front own back, d.text? m = some own ∧ d.innerText? h = some (front ++ own ++ back) ∧
          ∀ text, (d.setText m text).innerText? h = some (front ++ text ++ back)) := by
  have hw := hd.wellFormed
  refine ⟨⟨length_preorder_le hw h, fun steps text => gather_singleton_eq_ite hw steps text h⟩,
    innerText?_eq_none_iff, fun hh => (gather_size hw hh).symm, innerText?_eq_recursion hw h,
    fun hh => ⟨?piece, fun _ hp => innerText?_eq_of_takesUp hw hh hp⟩, ?others, ?above⟩
  case piece => exact ⟨d.preorder h, (takesUp_iff hw hh).mpr rfl, fun _ => (takesUp_iff hw hh).mp⟩
  case others =>
    intro m hm text
    -- what is not below the node adds nothing to its text
    have hw' := wellFormed_setText hw m text
    rw [← mem_preorder_iff hw] at hm
    rcases Nat.lt_or_ge h d.size with hh | hh
    · rw [innerText?_eq hw' (by rwa [size_setText]), textBelow_setText_of_notMem hw hm,
        innerText?_eq hw hh]
    · rw [innerText?_eq_none_iff.mpr hh, innerText?_eq_none_iff, size_setText]
      exact hh
  case above =>
    intro hh m hm
    rw [← mem_preorder_iff hw] at hm
    -- the node below has its text in one place of the whole
    have hsize := lt_size_of_mem_preorder hw hh hm
    obtain ⟨front, back, hold, hnew⟩ := textBelow_setText_of_mem hw hsize hm
    refine ⟨front, _, back, text?_eq_some_getD hsize, ?_, fun text => ?_⟩
    · rw [innerText?_eq hw hh, hold]
    · rw [innerText?_eq (wellFormed_setText hw m text) (by rwa [size_setText]), hnew]

/-- A key whose label is spread over nodes below it, of which the one that comes last in document
order was added before another one, and a key beside it. -/
def nestedKey : Document :=
  [.append 0 { tag := "button", text := "1" }, .append 1 { tag := "span", text := "0" },
    .append 1 { tag := "i", text := "!" }, .append 2 { tag := "b", text := "0" },
    .append 0 { tag := "button", text := "2" }].foldl Document.apply {}

theorem innerText_reads_subtree_nested :
    nestedKey.gather 4 "" [1] = some "100!" ∧ nestedKey.gather 3 "" [1] = none ∧
      nestedKey.innerText? 9 = none ∧
      (∃! piece, nestedKey.TakesUp 1 piece) ∧
      (nestedKey.setText 4 "5").innerText? 3 = nestedKey.innerText? 3 ∧
      ∃ front back, nestedKey.innerText? 1 = some (front ++ "0" ++ back) ∧
        (nestedKey.setText 4 "5").innerText? 1 = some (front ++ "5" ++ back) := by
  have hd : nestedKey.Reachable := Reachable.blank.foldl _
  obtain ⟨⟨-, hgather⟩, -, -, -, hpiece, -, habove⟩ := innerText_reads_subtree hd 1
  obtain ⟨-, hnone, -⟩ := innerText_reads_subtree hd 9
  obtain ⟨-, -, -, -, -, hothers, -⟩ := innerText_reads_subtree hd 3
  have hbeside : ¬Relation.ReflTransGen nestedKey.IsChild 3 4 := by
    rw [← mem_preorder_iff hd.wellFormed]
    decide
  have hbelow : Relation.ReflTransGen nestedKey.IsChild 1 4 := by
    rw [← mem_preorder_iff hd.wellFormed]
    decide
  obtain ⟨front, own, back, hown, hold, hnew⟩ := habove (by decide) 4 hbelow
  obtain rfl : "0" = own := Option.some.inj hown
  refine ⟨?_, ?_, hnone.mpr (by decide), (hpiece (by decide)).1, hothers 4 hbeside "5",
    front, back, hold, hnew "5"⟩
  · rw [hgather]
    rfl
  · rw [hgather]
    rfl

end Document

end AmountPad.Page
