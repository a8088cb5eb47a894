import Mathlib
import AmountPad.Page.View
import AmountPad.Proofs.Page.Lookup

/-!
# What a view knows and asks for

A view is resolved by three lookups: the display, the controls and the keys. What an event then asks
for can be said without the order in which a view is searched.

* `View.request?` — what an event asks for.

Main results:

* `View.resolve_eq_ok_iff` — a view is resolved to the nodes that the lookups find;
* `View.clickAction?_eq_ite`, `View.keyAction?_eq_ite` — what clicks and key presses ask for on any
  document, also where a node of the view is missing;
* `View.clickAction?_eq`, `View.keyAction?_eq` — clicks and key presses ask for what
  `View.request?` says.
-/

namespace AmountPad.Page

namespace View

/-- What an event asks for: a control acts as itself also where it is a key, and a key press that
comes from a field belongs to that field. -/
def request? (v : View) (d : Document) : Event → Option Action
  | .click h =>
    if v.clear = some h then some .clear
    else if v.backspace = some h then some .backspace
    else if h ∈ v.keys then some (.append (d.textBelow h))
    else none
  | .keyDown key origin =>
    if origin.any d.isEditable then none
    else (Action.ofKeyName? key).or
      (if ∃ k ∈ v.keys, d.textBelow k = key then some (.append key) else none)

/-! ## Resolving a view -/

/-- A view is resolved exactly if its display is found, its controls are what the policy asks for,
and its keys are the nodes of the class. -/
theorem resolve_eq_ok_iff {d : Document} {s : Settings} {v : View} :
    resolve d s = .ok v ↔ d.byId? s.markup.displayId = some v.display ∧
      resolveControls d s = .ok (v.clear, v.backspace) ∧ v.keys = d.byClass s.markup.keyClass := by
  rw [resolve]
  cases d.byId? s.markup.displayId with
  | none => simp
  | some display =>
    cases hc : resolveControls d s with
    | error e => simp [bind, Except.bind]
    | ok found =>
      -- both searches succeed, and the view is made of what they find
      obtain ⟨clear, backspace⟩ := found
      obtain ⟨keys, display', clear', backspace'⟩ := v
      simp only [bind, Except.bind, pure, Except.pure, Except.ok.injEq, View.mk.injEq,
        Option.some.injEq, Prod.mk.injEq]
      constructor
      · rintro ⟨rfl, rfl, rfl, rfl⟩
        exact ⟨rfl, ⟨rfl, rfl⟩, rfl⟩
      · rintro ⟨rfl, ⟨rfl, rfl⟩, rfl⟩
        exact ⟨rfl, rfl, rfl, rfl⟩

/-! ## What an event asks for -/

/-- The place at which a search finds an element holds that element. -/
theorem getElem?_of_findIdx?_beq {l : List Handle} {h i : Nat}
    (hi : l.findIdx? (· == h) = some i) : l[i]? = some h := by
  obtain ⟨hlt, heq, -⟩ := List.findIdx?_eq_some_iff_getElem.mp hi
  rw [List.getElem?_eq_getElem hlt, beq_iff_eq.mp heq]

/-- A click on a key asks for the text that the key shows, if the document has the key. -/
theorem clickAction?_eq_ite (v : View) (d : Document) (h : Nat) : v.clickAction? d h =
    if v.clear = some h then some .clear
    else if v.backspace = some h then some .backspace
    else if h ∈ v.keys then (d.innerText? h).map .append
    else none := by
  rw [View.clickAction?, View.button?]
  by_cases hclear : v.clear = some h
  · rw [if_pos hclear, if_pos hclear]
    rfl
  by_cases hback : v.backspace = some h
  · rw [if_neg hclear, if_neg hclear, if_pos hback, if_pos hback]
    rfl
  rw [if_neg hclear, if_neg hclear, if_neg hback, if_neg hback]
  -- neither control: the node is a key if the keys list it
  cases hi : v.keys.findIdx? (· == h) with
  | none =>
    have hnot : h ∉ v.keys := fun hm => by
      simpa using List.findIdx?_eq_none_iff.mp hi h hm
    rw [if_neg hnot]
    rfl
  | some i =>
    have hget := getElem?_of_findIdx?_beq hi
    have hm : h ∈ v.keys := List.mem_of_getElem? hget
    rw [if_pos hm]
    simp [hget]

/-- A key press asks for a text if some key shows it, whichever that is. -/
theorem keyAction?_eq_ite (v : View) (d : Document) (key : String) (origin : Option Handle) :
    v.keyAction? d key origin =
      if origin.any d.isEditable then none
      else (Action.ofKeyName? key).or
        (if ∃ k ∈ v.keys, d.innerText? k = some key then some (.append key) else none) := by
  rw [View.keyAction?, View.keyShowing?]
  -- only the label is looked up in another way
  refine if_congr Iff.rfl rfl (congrArg _ ?_)
  cases hfind : v.keys.find? fun h => d.innerText? h == some key with
  | some k =>
    have hex : ∃ k ∈ v.keys, d.innerText? k = some key :=
      ⟨k, List.mem_of_find?_eq_some hfind, by simpa using List.find?_some hfind⟩
    rw [if_pos hex]
    rfl
  | none =>
    have hno : ¬∃ k ∈ v.keys, d.innerText? k = some key := by
      rintro ⟨k, hm, ht⟩
      simpa [ht] using List.find?_eq_none.mp hfind k hm
    rw [if_neg hno]
    rfl

section

variable {v : View} {d : Document} (hd : d.WellFormed) (hk : ∀ k ∈ v.keys, k < d.size)
include hd hk

/-- What a listener asks for on a click is the request of the click. -/
theorem clickAction?_eq (h : Nat) : v.clickAction? d h = v.request? d (.click h) := by
  have htext : h ∈ v.keys → (d.innerText? h).map Action.append = some (.append (d.textBelow h)) :=
    fun hm => by rw [Document.innerText?_eq hd (hk h hm), Option.map_some]
  rw [clickAction?_eq_ite, View.request?]
  by_cases hm : h ∈ v.keys
  · rw [htext hm]
  · rw [if_neg hm, if_neg hm]

/-- A key that shows a label is looked for by the text below its node. -/
theorem keyShowing?_eq (label : String) :
    v.keyShowing? d label = v.keys.find? (d.textBelow · == label) := by
  rw [View.keyShowing?]
  refine List.find?_congr fun k hm => ?_
  rw [Document.innerText?_eq hd (hk k hm)]
  simp

/-- What the keyboard listener asks for is the request of the key. -/
theorem keyAction?_eq (key : String) (origin : Option Handle) :
    v.keyAction? d key origin = v.request? d (.keyDown key origin) := by
  have hshows : (∃ k ∈ v.keys, d.innerText? k = some key) ↔ ∃ k ∈ v.keys, d.textBelow k = key :=
    exists_congr fun k => and_congr_right fun hm => by
      rw [Document.innerText?_eq hd (hk k hm), Option.some.injEq]
  rw [keyAction?_eq_ite, View.request?]
  refine if_congr Iff.rfl rfl (congrArg _ (if_congr hshows rfl rfl))

end

end View

end AmountPad.Page
