import Mathlib
import AmountPad.Proofs.Yaml.Document
import AmountPad.Yaml.Reader

/-!
# Readers of written values

A reader that belongs to a way of writing values takes the items of a written value from the front
of a document, gives the value back, and leaves the items behind it alone. In which style a text is
written makes no difference to it.

* `IsOf` — items are those of a value;
* `Reader.Reads` — a reader gives back what is written;
* `Reader.Takes` — the steps of a mapping's reader take its members one after the other.

Main results:

* `Reader.Reads.list` — lists of what is given back are given back;
* `Reader.mapping_of_takes` — a mapping is read by the steps of its members;
* `Reader.ofText_of_reads` — a text whose document is a written value gives it back.
-/

namespace AmountPad.Yaml

open Json (Node)

/-! ## Items of a value -/

/-- An item without the style of its text. -/
def Item.unstyled : Item → Item
  | .scalar tag text _ => .scalar tag text .plain
  | x => x

/-- Whether items are given ones, in whatever style their texts are written. -/
def IsOf (is : Items) (xs : List Item) : Prop :=
  is.map (fun i => i.1.unstyled) = xs.map Item.unstyled

/-- Items that are the given ones with their styles are so without them. -/
theorem isOf_of_map {is : Items} {xs : List Item} (h : is.map Prod.fst = xs) : IsOf is xs := by
  rw [IsOf, ← h, List.map_map]
  rfl

/-- The first of some items can be told but for its style, and the others are those that follow. -/
theorem isOf_cons {is : Items} {x : Item} {xs : List Item} (h : IsOf is (x :: xs)) :
    ∃ y mark is', is = (y, mark) :: is' ∧ y.unstyled = x.unstyled ∧ IsOf is' xs := by
  obtain ⟨⟨y, mark⟩, is', rfl, hy, his'⟩ := List.map_eq_cons_iff.mp h
  exact ⟨y, mark, is', rfl, hy, his'⟩

/-- Items of two lists fall into those of the first and those of the second. -/
theorem isOf_append {is : Items} {xs ys : List Item} (h : IsOf is (xs ++ ys)) :
    ∃ is₁ is₂, is = is₁ ++ is₂ ∧ IsOf is₁ xs ∧ IsOf is₂ ys := by
  rw [IsOf, List.map_append] at h
  exact List.map_eq_append_iff.mp h

theorem IsOf.length {is : Items} {xs : List Item} (h : IsOf is xs) : is.length = xs.length := by
  simpa using congrArg List.length h

theorem isOf_nil {is : Items} (h : IsOf is []) : is = [] := List.map_eq_nil_iff.mp h

/-- A text is an item of its own. -/
theorem isOf_scalar {is : Items} {s : String} {style : Style} {xs : List Item}
    (h : IsOf is (.scalar none s style :: xs)) :
    ∃ style' mark is', is = (.scalar none s style', mark) :: is' ∧ IsOf is' xs := by
  obtain ⟨y, mark, is', rfl, hy, his'⟩ := isOf_cons h
  cases y with
  | scalar tag text style' =>
    obtain ⟨rfl, rfl, -⟩ := Item.scalar.inj hy
    exact ⟨style', mark, is', rfl, his'⟩
  | _ => exact absurd hy nofun

/-- An item without a text can be told from what is left of it. -/
theorem eq_of_unstyled {x y : Item} (h : y.unstyled = x.unstyled)
    (hx : ∀ tag text style, x ≠ .scalar tag text style) : y = x := by
  cases x with
  | scalar tag text style => exact absurd rfl (hx tag text style)
  | _ => cases y <;> simp_all [Item.unstyled]

/-- The items of a collection stand between its start and its end, which have no style to be lost.
-/
theorem isOf_between {is : Items} {first last : Item} {xs : List Item}
    (h : IsOf is (first :: (xs ++ [last]))) (hfirst : ∀ tag text style, first ≠ .scalar tag text style)
    (hlast : ∀ tag text style, last ≠ .scalar tag text style) :
    ∃ mark is' mark', is = (first, mark) :: (is' ++ [(last, mark')]) ∧ IsOf is' xs := by
  obtain ⟨y, mark, more, rfl, hy, hmore⟩ := isOf_cons h
  obtain ⟨is', ending, rfl, hinside, hending⟩ := isOf_append hmore
  obtain ⟨z, mark', rest, rfl, hz, hrest⟩ := isOf_cons hending
  obtain rfl := isOf_nil hrest
  obtain rfl := eq_of_unstyled hy hfirst
  obtain rfl := eq_of_unstyled hz hlast
  exact ⟨mark, is', mark', rfl, hinside⟩

/-- A value starts with an item that ends no collection. -/
theorem exists_first {is : Items} {n : Node} (h : IsOf is (parts n)) :
    ∃ y mark is', is = (y, mark) :: is' ∧ y ≠ .sequenceEnd ∧ y ≠ .nothing := by
  cases n with
  | text s =>
    obtain ⟨style, mark, is', rfl, -⟩ := isOf_scalar h
    exact ⟨_, mark, is', rfl, nofun, nofun⟩
  | list ns =>
    obtain ⟨mark, is', mark', rfl, -⟩ := isOf_between h nofun nofun
    exact ⟨_, mark, _, rfl, nofun, nofun⟩
  | object ms =>
    obtain ⟨mark, is', mark', rfl, -⟩ := isOf_between h nofun nofun
    exact ⟨_, mark, _, rfl, nofun, nofun⟩

theorem parts_pos (n : Node) : 0 < (parts n).length := by cases n <;> exact Nat.succ_pos _

/-- A sequence has at least as many items as it has entries. -/
theorem length_le_itemParts (ns : List Node) : ns.length ≤ (itemParts ns).length := by
  induction ns with
  | nil => exact Nat.le_refl 0
  | cons n ns ih =>
    have := parts_pos n
    simp only [itemParts, List.length_cons, List.length_append]
    omega

theorem length_le_memberParts (ms : List (String × Node)) : ms.length ≤ (memberParts ms).length := by
  induction ms with
  | nil => exact Nat.le_refl 0
  | cons m ms ih =>
    obtain ⟨name, n⟩ := m
    simp only [memberParts, List.length_cons, List.length_append]
    omega

namespace Reader

variable {α σ : Type}

/-- Whether a reader gives back the values that are written as nodes. -/
def Reads (reader : Reader α) (node : α → Node) : Prop :=
  ∀ (a : α) (d : Document) (path : String) (jumps : Nat) {is : Items} (rest : Items),
    IsOf is (parts (node a)) → (is ++ rest).length ≤ d.items.length →
    reader d path ⟨is ++ rest, jumps⟩ = .ok (a, ⟨rest, jumps⟩)

theorem reads_text (expected : String) : Reads (text expected) Node.text := by
  intro s d path jumps is rest his _
  obtain ⟨style, mark, is', rfl, his'⟩ := isOf_scalar his
  obtain rfl := isOf_nil his'
  rfl

/-- A choice that is written by its name is given back by a reader that knows the name. -/
theorem reads_variant {choices : List (String × α)} {name : α → String}
    (h : ∀ a, choices.lookup (name a) = some a) :
    Reads (variant choices) fun a => .text (name a) := by
  intro a d path jumps is rest his _
  obtain ⟨style, mark, is', rfl, his'⟩ := isOf_scalar his
  obtain rfl := isOf_nil his'
  simp [variant, onItem, peek, behind, choose, h a, bind, Except.bind, pure, Except.pure]

/-! ## Lists -/

/-- A reader of items that may take more of them than there are takes them all. -/
theorem Reads.items {item : Reader α} {node : α → Node} (h : Reads item node) (as : List α)
    (d : Document) (path : String) (jumps : Nat) {is : Items} (mark : Mark) (rest : Items)
    (his : IsOf is (itemParts (as.map node)))
    (hlength : (is ++ (.sequenceEnd, mark) :: rest).length ≤ d.items.length) (index : Nat)
    {bound : Nat} (hb : as.length < bound) :
    items item bound index d path ⟨is ++ (.sequenceEnd, mark) :: rest, jumps⟩ =
      .ok (as, ⟨rest, jumps⟩) := by
  induction as generalizing is index bound with
  | nil =>
    -- the end of the sequence is what stops the reader
    obtain ⟨bound, rfl⟩ := Nat.exists_eq_succ_of_ne_zero (Nat.ne_of_gt hb)
    obtain rfl := isOf_nil his
    rfl
  | cons a as ih =>
    obtain ⟨bound, rfl⟩ := Nat.exists_eq_succ_of_ne_zero (Nat.ne_of_gt (Nat.zero_lt_of_lt hb))
    obtain ⟨first, more, rfl, hfirst, hmore⟩ := isOf_append his
    obtain ⟨y, mark', is', hy, hend, hnothing⟩ := exists_first hfirst
    have htake := h a d (itemPath path index) jumps (more ++ (.sequenceEnd, mark) :: rest) hfirst
      (by simpa using hlength)
    have hrest := ih hmore (by simp at hlength ⊢; omega) (index + 1) (Nat.lt_of_succ_lt_succ hb)
    rw [List.append_assoc, Reader.items]
    have hpeek : peek d ⟨first ++ (more ++ (.sequenceEnd, mark) :: rest), jumps⟩ = .ok (y, mark') := by
      rw [hy]
      rfl
    simp only [hpeek, bind, Except.bind]
    -- the first item of a value is no end, so that the reader of items goes on
    split
    · next heq => exact absurd (Prod.mk.inj heq).1 hend
    · next heq => exact absurd (Prod.mk.inj heq).1 hnothing
    · rw [htake]
      simp only [hrest]
      rfl

/-- Lists of what is given back are given back. -/
theorem Reads.list {item : Reader α} {node : α → Node} (h : Reads item node) :
    Reads (list item) fun as => .list (as.map node) := by
  intro as d path jumps is rest his hlength
  obtain ⟨mark, is', mark', rfl, hinside⟩ := isOf_between his nofun nofun
  -- no value is without items, so the bound of the reader is enough
  have hcount : as.length < d.items.length + 1 := by
    have hparts := length_le_itemParts (as.map node)
    rw [List.length_map, ← hinside.length] at hparts
    simp only [List.length_cons, List.length_append] at hlength
    omega
  have hitems := h.items as d path jumps mark' rest hinside (by simp at hlength ⊢; omega) 0 hcount
  rw [List.cons_append, List.append_assoc]
  simp only [Reader.list, onItem, peek, behind, bind, Except.bind, List.drop_one, List.tail_cons]
  exact hitems

/-! ## Mappings -/

/-- How the steps of a mapping's reader take its members, from what is known before them to what is
known behind them. -/
inductive Takes (has : σ → String → Bool) (step : σ → String → Reader σ) :
    σ → List (String × Node) → σ → Prop
  | nil (s : σ) : Takes has step s [] s
  | cons {s s'' : σ} {name : String} {n : Node} {rest : List (String × Node)} (s' : σ) :
    has s name = false →
      (∀ (d : Document) (path : String) (jumps : Nat) (is behind : Items), IsOf is (parts n) →
        (is ++ behind).length ≤ d.items.length →
        step s name d path ⟨is ++ behind, jumps⟩ = .ok (s', ⟨behind, jumps⟩)) →
      Takes has step s' rest s'' → Takes has step s ((name, n) :: rest) s''

/-- A reader of members that may take more of them than there are takes them all. -/
theorem members_of_takes {has : σ → String → Bool} {step : σ → String → Reader σ} {s s' : σ}
    {ms : List (String × Node)} (h : Takes has step s ms s') (start : Mark) (d : Document)
    (path : String) (jumps : Nat) {is : Items} (mark : Mark) (rest : Items)
    (his : IsOf is (memberParts ms))
    (hlength : (is ++ (.mappingEnd, mark) :: rest).length ≤ d.items.length)
    {bound : Nat} (hb : ms.length < bound) :
    members has step start bound s d path ⟨is ++ (.mappingEnd, mark) :: rest, jumps⟩ =
      .ok (s', ⟨rest, jumps⟩) := by
  induction h generalizing is bound with
  | nil s =>
    obtain ⟨bound, rfl⟩ := Nat.exists_eq_succ_of_ne_zero (Nat.ne_of_gt hb)
    obtain rfl := isOf_nil his
    rfl
  | @cons s s'' name n ms s' hfresh hstep _ ih =>
    obtain ⟨bound, rfl⟩ := Nat.exists_eq_succ_of_ne_zero (Nat.ne_of_gt (Nat.zero_lt_of_lt hb))
    obtain ⟨style, mark', more, rfl, hmore⟩ := isOf_scalar his
    obtain ⟨value, others, rfl, hvalue, hothers⟩ := isOf_append hmore
    have hshorter : (value ++ (others ++ (Item.mappingEnd, mark) :: rest)).length ≤ d.items.length := by
      simp at hlength ⊢
      omega
    -- the value is read behind its name, and the other members behind the value
    have htake := hstep d (memberPath path (some name)) jumps value
      (others ++ (.mappingEnd, mark) :: rest) hvalue hshorter
    have hrest := ih hothers (by simp at hlength ⊢; omega) (Nat.lt_of_succ_lt_succ hb)
    simp only [List.cons_append, List.append_assoc]
    simp only [Reader.members, peek, text, onItem, behind, bind, Except.bind, nameOf, hfresh,
      List.drop_one, List.tail_cons, Bool.false_eq_true, if_false, htake]
    exact hrest

/-- A mapping is read by the steps of its members. -/
theorem mapping_of_takes {has : σ → String → Bool} {step : σ → String → Reader σ} {start s : σ}
    {ms : List (String × Node)} (h : Takes has step start ms s) (expected : String) (d : Document)
    (path : String) (jumps : Nat) {is : Items} (rest : Items) (his : IsOf is (parts (.object ms)))
    (hlength : (is ++ rest).length ≤ d.items.length) :
    mapping has step start expected d path ⟨is ++ rest, jumps⟩ = .ok (s, ⟨rest, jumps⟩) := by
  obtain ⟨mark, is', mark', rfl, hinside⟩ := isOf_between his nofun nofun
  -- no member is without items, so the bound of the reader is enough
  have hcount : ms.length < d.items.length + 1 := by
    have hparts := length_le_memberParts ms
    rw [← hinside.length] at hparts
    simp only [List.length_cons, List.length_append] at hlength
    omega
  have hmembers := members_of_takes h mark d path jumps mark' rest hinside
    (by simp at hlength ⊢; omega) hcount
  rw [List.cons_append, List.append_assoc]
  simp only [mapping, onItem, peek, behind, bind, Except.bind, List.drop_one, List.tail_cons]
  show (members has step mark (d.items.length + 1) start d path
    ⟨is' ++ (.mappingEnd, mark') :: rest, jumps⟩).mapError _ = _
  rw [hmembers]
  rfl

/-! ## Whole texts -/

/-- A text whose document is a written value gives it back. -/
theorem ofText_of_reads {reader : Reader α} {node : α → Node} (h : Reads reader node) {a : α}
    {text : String} {is : Items} (hdocument : Document.ofText text.toList = ⟨is, [], none, false⟩)
    (his : IsOf is (parts (node a))) : ofText reader text = .ok a := by
  have hread := h a ⟨is, [], none, false⟩ "" 0 [] his (by simp)
  rw [List.append_nil] at hread
  rw [ofText, hdocument]
  simp only [hread]
  rfl

end Reader

end AmountPad.Yaml
