import Mathlib
import AmountPad.Proofs.Page.Mirror

/-!
# What an event leaves alone

An event is recorded on its page whatever becomes of it. Beyond that it can reach the text of the
display and nothing else, and an event that the pad refuses does not even reach that. So refused
events leave no trace but their records: a run without them ends at the same amount and the same
tree. All of this holds of every pad on every document, also where the page has lost nodes that the
pad goes by or never had them.

* `Document.KeepsBut` — a change that can reach the text of one node only;
* `Bound.Asks`, `Bound.Refuses` — what an event asks for, and why it may be refused;
* `Bound.Thinned` — runs from which refused moves are left out;
* `Bound.SameButHistory` — pads on documents that differ in what they record;
* `Bound.attachInPlace` — binding a pad with the document in hand.

Main results:

* `Bound.handle_cases` — an event runs what it asks for, or it is refused;
* `Bound.SameButHistory.play` — refused moves leave no trace but their records;
* `Bound.attachInPlace_eq` — binding in place, also when it fails;
* `Bound.attach_keepsBut`, `Bound.shown?_of_attach` — what binding reaches, and what is shown then;
* `Bound.events_keep_all_but_display` — all of it in one statement.
-/

namespace AmountPad.Page

/-! ## Only nodes matter -/

namespace Document

variable {d d' : Document}

/-- Whether a node takes typed text does not depend on the history. -/
theorem isEditable_congr (h : d'.nodes = d.nodes) : d'.isEditable = d.isEditable := by
  funext x
  rw [isEditable, isEditable, element?_congr h]

/-- No change of a document goes by what was recorded. -/
theorem nodes_apply_congr (h : d'.nodes = d.nodes) (edit : Edit) :
    (d'.apply edit).nodes = (d.apply edit).nodes := by
  cases edit with
  | append parent e =>
    show (d'.append parent e).nodes = (d.append parent e).nodes
    unfold append parentFor size
    rw [h]
  | change node f =>
    simp only [apply, Document.edit, h]
  | record event => exact h
  | forget => exact h

/-- A change adds the same records to two histories, or clears both. -/
theorem history_apply_sublist (h : d.history.Sublist d'.history) (edit : Edit) :
    (d.apply edit).history.Sublist (d'.apply edit).history := by
  cases edit with
  | append parent e => exact h
  | change node f => exact h
  | record event => exact h.append_right [event]
  | forget => exact List.Sublist.refl []

/-! ## Changes that reach one text -/

/-- A document after a change that can reach the text of one node and nothing else of its tree. -/
structure KeepsBut (node : Handle) (d d' : Document) : Prop where
  size_eq : d'.size = d.size
  children_eq : ∀ h, d'.children h = d.children h
  other_eq : ∀ h, h ≠ node → d'.element? h = d.element? h
  node_eq : ∃ text, d'.element? node = (d.element? node).map fun e => { e with text := text }

namespace KeepsBut

variable {node : Handle} {d'' : Document}

/-- A change of the history reaches no text at all. -/
theorem of_nodes_eq (h : d'.nodes = d.nodes) : KeepsBut node d d' where
  size_eq := size_congr h
  children_eq := children_congr h
  other_eq := fun x _ => element?_congr h x
  node_eq := by
    rw [element?_congr h]
    -- the text that the node has already, or none if there is no such node
    cases d.element? node with
    | none => exact ⟨"", rfl⟩
    | some e => exact ⟨e.text, rfl⟩

theorem setText (d : Document) (node : Handle) (text : String) :
    KeepsBut node d (d.setText node text) where
  size_eq := size_setText d node text
  children_eq := children_setText d node text
  other_eq := fun x hx => by
    rw [Document.setText, element?_edit, if_neg (Ne.symm hx)]
  node_eq := ⟨text, by rw [Document.setText, element?_edit, if_pos rfl]⟩

theorem trans (h : KeepsBut node d d') (h' : KeepsBut node d' d'') : KeepsBut node d d'' where
  size_eq := h'.size_eq.trans h.size_eq
  children_eq := fun x => (h'.children_eq x).trans (h.children_eq x)
  other_eq := fun x hx => (h'.other_eq x hx).trans (h.other_eq x hx)
  node_eq := by
    obtain ⟨text, ht⟩ := h.node_eq
    obtain ⟨text', ht'⟩ := h'.node_eq
    refine ⟨text', ?_⟩
    rw [ht', ht, Option.map_map]
    rfl

end KeepsBut

end Document

namespace Bound

/-! ## What an event comes to -/

variable {b b' : Bound}

/-- What an event asks a pad for. Texts are those of the document that the event finds. -/
inductive Asks (b : Bound) : Event → Action → Prop
  | clear {h : Nat} (hclear : b.pad.view.clear = some h) : Asks b (.click h) .clear
  | backspace {h : Nat} (hclear : b.pad.view.clear ≠ some h)
      (hback : b.pad.view.backspace = some h) : Asks b (.click h) .backspace
  | key {h : Nat} {label : String} (hclear : b.pad.view.clear ≠ some h)
      (hback : b.pad.view.backspace ≠ some h) (hkey : h ∈ b.pad.view.keys)
      (htext : b.document.innerText? h = some label) : Asks b (.click h) (.append label)
  | name {key : String} {origin : Option Handle} {action : Action}
      (horigin : origin.any b.document.isEditable = false)
      (hname : Action.ofKeyName? key = some action) : Asks b (.keyDown key origin) action
  | label {key : String} {origin : Option Handle} {k : Handle}
      (horigin : origin.any b.document.isEditable = false)
      (hname : Action.ofKeyName? key = none) (hkey : k ∈ b.pad.view.keys)
      (htext : b.document.innerText? k = some key) : Asks b (.keyDown key origin) (.append key)

/-- Why a pad refuses an event. -/
inductive Refuses (b : Bound) : Event → Prop
  /-- The target is no control, and no key that the document has. -/
  | unbound {h : Nat} (hclear : b.pad.view.clear ≠ some h) (hback : b.pad.view.backspace ≠ some h)
      (hkey : h ∈ b.pad.view.keys → b.document.size ≤ h) : Refuses b (.click h)
  /-- The key was pressed where text is typed. -/
  | typed {key : String} {origin : Option Handle}
      (horigin : origin.any b.document.isEditable = true) : Refuses b (.keyDown key origin)
  /-- The key names no control, and no key of the pad shows it. -/
  | unmatched {key : String} {origin : Option Handle} (hname : Action.ofKeyName? key = none)
      (hkeys : ∀ k ∈ b.pad.view.keys, b.document.innerText? k ≠ some key) :
      Refuses b (.keyDown key origin)
  /-- The key names a control that is not wired. -/
  | unwired {key : String} {origin : Option Handle} {action : Action}
      (hname : Action.ofKeyName? key = some action) (hwired : b.controls.permits action = false) :
      Refuses b (.keyDown key origin)

/-- What an event asks for is what the listeners of the pad find. -/
theorem asks_iff {event : Event} {action : Action} :
    b.Asks event action ↔ b.actionFor? event = some action := by
  constructor
  · -- each kind of request is found by the listener at its place in the order of the tests
    intro ha
    cases ha with
    | clear hclear => rw [actionFor?, View.clickAction?_eq_ite, if_pos hclear]
    | backspace hclear hback =>
      rw [actionFor?, View.clickAction?_eq_ite, if_neg hclear, if_pos hback]
    | key hclear hback hkey htext =>
      rw [actionFor?, View.clickAction?_eq_ite, if_neg hclear, if_neg hback, if_pos hkey, htext]
      rfl
    | name horigin hname =>
      rw [actionFor?, View.keyAction?_eq_ite, horigin, hname]
      rfl
    | @label key origin k horigin hname hkey htext =>
      have hshown : ∃ k ∈ b.pad.view.keys, b.document.innerText? k = some key := ⟨k, hkey, htext⟩
      rw [actionFor?, View.keyAction?_eq_ite, horigin, if_neg Bool.false_ne_true, hname,
        if_pos hshown]
      rfl
  · intro h
    cases event with
    | click target =>
      rw [actionFor?, View.clickAction?_eq_ite] at h
      -- the tests of the listener, in their order, are the cases of a request
      split_ifs at h with hclear hback hkey
      · obtain rfl := Option.some.inj h
        exact .clear hclear
      · obtain rfl := Option.some.inj h
        exact .backspace hclear hback
      · obtain ⟨label, htext, rfl⟩ := Option.map_eq_some_iff.mp h
        exact .key hclear hback hkey htext
    | keyDown key origin =>
      rw [actionFor?, View.keyAction?_eq_ite] at h
      split at h
      · cases h
      · next horigin =>
        have horigin := Bool.eq_false_iff.mpr horigin
        cases hname : Action.ofKeyName? key with
        | some named =>
          rw [hname, Option.some_or] at h
          exact .name horigin (hname.trans h)
        | none =>
          rw [hname, Option.none_or] at h
          split_ifs at h with hshown
          obtain ⟨k, hkey, htext⟩ := hshown
          obtain rfl := Option.some.inj h
          exact .label horigin hname hkey htext

/-- What an event asks for does not depend on what was recorded. -/
theorem actionFor?_congr (hpad : b'.pad = b.pad) (hnodes : b'.document.nodes = b.document.nodes)
    (event : Event) : b'.actionFor? event = b.actionFor? event := by
  have htext := Document.innerText?_congr hnodes
  cases event with
  | click h => simp only [actionFor?, View.clickAction?_eq_ite, hpad, htext]
  | keyDown key origin =>
    simp only [actionFor?, View.keyAction?_eq_ite, hpad, htext, Document.isEditable_congr hnodes]

/-- A pad refuses an event that asks for nothing, and one that asks for a control which is not
wired. -/
theorem refuses_iff {event : Event} :
    b.Refuses event ↔ ∀ action, b.actionFor? event = some action →
      b.controls.permits action = false := by
  constructor
  · intro hr action ha
    cases hr with
    | unbound hclear hback hkey =>
      rw [actionFor?, View.clickAction?_eq_ite, if_neg hclear, if_neg hback] at ha
      split_ifs at ha with hm
      rw [Document.innerText?_eq_none_iff.mpr (hkey hm)] at ha
      cases ha
    | typed horigin =>
      rw [actionFor?, View.keyAction?_eq_ite, if_pos horigin] at ha
      cases ha
    | unmatched hname hkeys =>
      rw [actionFor?, View.keyAction?_eq_ite, hname, Option.none_or] at ha
      split_ifs at ha with _ hshown
      obtain ⟨k, hkey, htext⟩ := hshown
      exact absurd htext (hkeys k hkey)
    | unwired hname hwired =>
      rw [actionFor?, View.keyAction?_eq_ite, hname, Option.some_or] at ha
      split_ifs at ha
      rwa [← Option.some.inj ha]
  · intro h
    -- a bound control and a key are never refused
    have hasks : ∀ action, b.Asks event action → b.controls.permits action = false :=
      fun action ha => h action (asks_iff.mp ha)
    cases event with
    | click target =>
      have hclear : b.pad.view.clear ≠ some target := fun hc => by
        simpa [controls, View.controls, Controls.permits, hc] using hasks _ (.clear hc)
      have hback : b.pad.view.backspace ≠ some target := fun hb => by
        simpa [controls, View.controls, Controls.permits, hb] using hasks _ (.backspace hclear hb)
      refine .unbound hclear hback fun hkey => ?_
      rw [← Document.innerText?_eq_none_iff, Option.eq_none_iff_forall_ne_some]
      exact fun label htext => Bool.noConfusion (hasks _ (.key hclear hback hkey htext))
    | keyDown key origin =>
      by_cases horigin : origin.any b.document.isEditable = true
      · exact .typed horigin
      rw [Bool.not_eq_true] at horigin
      cases hname : Action.ofKeyName? key with
      | some action => exact .unwired hname (hasks action (.name horigin hname))
      | none =>
        refine .unmatched hname fun k hkey htext => ?_
        exact Bool.noConfusion (hasks _ (.label horigin hname hkey htext))

/-- The pad and its document after an action that runs. -/
def ran (b : Bound) (action : Action) : Bound :=
  sync { b with pad := { b.pad with amount := b.pad.amount.apply action } }

/-- The pad and its document after an event of which nothing comes. -/
def recorded (b : Bound) (event : Event) : Bound :=
  { b with document := b.document.record event }

/-- An action runs if the controls permit it, and else nothing changes. -/
theorem run_eq_ite (b : Bound) (action : Action) :
    b.run action = if b.controls.permits action then (b.ran action, true) else (b, false) := by
  rw [run, Amount.run?]
  cases b.controls.permits action <;> rfl

/-- An event is recorded, and runs what it asks for or is refused. -/
theorem handle_cases (b : Bound) (event : Event) :
    (∃ action, b.Asks event action ∧ b.controls.permits action = true ∧
      b.handle event = ((b.recorded event).ran action, true)) ∨
    (b.Refuses event ∧ b.handle event = (b.recorded event, false)) := by
  -- recording an event wires no control
  have hrun : ∀ action, b.actionFor? event = some action → b.handle event =
      if b.controls.permits action then ((b.recorded event).ran action, true)
      else (b.recorded event, false) := by
    intro action ha
    rw [handle, ha]
    exact run_eq_ite (b.recorded event) action
  cases ha : b.actionFor? event with
  | none =>
    refine .inr ⟨refuses_iff.mpr fun action h => ?_, ?_⟩
    · rw [ha] at h
      cases h
    · rw [handle, ha]
      rfl
  | some action =>
    cases hp : b.controls.permits action with
    | true =>
      refine .inl ⟨action, asks_iff.mpr ha, hp, ?_⟩
      rw [hrun action ha, hp, if_pos rfl]
    | false =>
      refine .inr ⟨refuses_iff.mpr fun action' h => ?_, ?_⟩
      · rw [ha] at h
        rwa [← Option.some.inj h]
      · rw [hrun action ha, hp, if_neg Bool.false_ne_true]

/-- The flag of an event tells whether it was refused. -/
theorem handle_eq_false_iff (b : Bound) (event : Event) :
    (b.handle event).2 = false ↔ b.Refuses event := by
  rcases handle_cases b event with ⟨action, ha, hp, hh⟩ | ⟨hr, hh⟩
  · rw [hh]
    refine iff_of_false Bool.noConfusion fun hr => ?_
    have hrefused := refuses_iff.mp hr action (asks_iff.mp ha)
    rw [hp] at hrefused
    exact Bool.noConfusion hrefused
  · rw [hh]
    exact iff_of_true rfl hr

/-- A refused event leaves nothing but its record. -/
theorem handle_refused {event : Event} (hf : (b.handle event).2 = false) :
    (b.handle event).1 = b.recorded event := by
  rcases handle_cases b event with ⟨action, -, -, hh⟩ | ⟨-, hh⟩
  · rw [hh] at hf
    cases hf
  · rw [hh]

/-- Every event is recorded, and nothing else is. -/
theorem history_handle (b : Bound) (event : Event) :
    (b.handle event).1.document.history = b.document.history ++ [event] := by
  rcases handle_cases b event with ⟨action, -, -, hh⟩ | ⟨-, hh⟩ <;> rw [hh] <;> rfl

/-- No event changes the parts that the pad goes by. -/
theorem view_handle (b : Bound) (event : Event) :
    (b.handle event).1.pad.view = b.pad.view := by
  rcases handle_cases b event with ⟨action, -, -, hh⟩ | ⟨-, hh⟩ <;> rw [hh] <;> rfl

/-- An event reaches no more of the tree than the text of the display. -/
theorem handle_keepsBut (b : Bound) (event : Event) :
    Document.KeepsBut b.pad.view.display b.document (b.handle event).1.document := by
  rcases handle_cases b event with ⟨action, -, -, hh⟩ | ⟨-, hh⟩
  · rw [hh]
    have hrecorded : Document.KeepsBut b.pad.view.display b.document
        (b.document.record event) := .of_nodes_eq rfl
    exact hrecorded.trans (.setText _ _ _)
  · rw [hh]
    exact .of_nodes_eq rfl

/-! ## Runs without what was refused -/

/-- The flag of a move. Resets and changes of the page have none. -/
def flag? (b : Bound) : Move → Option Bool
  | .handle event => some (b.handle event).2
  | .click target => some (b.click target).2
  | .clickId id => some (b.clickId id).2
  | .clickLabel label => some (b.clickLabel label).2
  | .pressKey key => some (b.pressKey key).2
  | .reset => none
  | .edit _ => none

/-- The flags of moves that are made one after the other. -/
def flags : Bound → List Move → List (Option Bool)
  | _, [] => []
  | b, m :: rest => b.flag? m :: (b.move m).flags rest

/-- A run from which some moves are left out that were refused in it. -/
inductive Thinned : Bound → List Move → List Move → Prop
  | nil (b : Bound) : Thinned b [] []
  | keep {b : Bound} {moves kept : List Move} (m : Move) (rest : Thinned (b.move m) moves kept) :
      Thinned b (m :: moves) (m :: kept)
  | drop {b : Bound} {moves kept : List Move} {m : Move} (hm : b.flag? m = some false)
      (rest : Thinned (b.move m) moves kept) : Thinned b (m :: moves) kept

/-- A run without any move that was refused in it. -/
def heeded (b : Bound) : List Move → List Move
  | [] => []
  | m :: rest =>
    if b.flag? m = some false then (b.move m).heeded rest else m :: (b.move m).heeded rest

/-- A run without the refused moves is one from which only refused moves are left out. -/
theorem thinned_heeded (b : Bound) (moves : List Move) : b.Thinned moves (b.heeded moves) := by
  induction moves generalizing b with
  | nil => exact .nil b
  | cons m rest ih =>
    rw [heeded]
    split
    · next hm => exact .drop hm (ih (b.move m))
    · exact .keep m (ih (b.move m))

/-- Pads with the same view and amount on documents with the same nodes, of which the second has
recorded all that the first has. -/
structure SameButHistory (b b' : Bound) : Prop where
  pad_eq : b'.pad = b.pad
  nodes_eq : b'.document.nodes = b.document.nodes
  history_sublist : b.document.history.Sublist b'.document.history

namespace SameButHistory

theorem refl (b : Bound) : SameButHistory b b := ⟨rfl, rfl, List.Sublist.refl _⟩

theorem trans {b'' : Bound} (h : SameButHistory b b') (h' : SameButHistory b' b'') :
    SameButHistory b b'' where
  pad_eq := h'.pad_eq.trans h.pad_eq
  nodes_eq := h'.nodes_eq.trans h.nodes_eq
  history_sublist := h.history_sublist.trans h'.history_sublist

/-- The display is written in the same way on both documents. -/
theorem setPad (h : SameButHistory b b') (pad : Pad) :
    SameButHistory (sync { b with pad := pad }) (sync { b' with pad := pad }) where
  pad_eq := rfl
  nodes_eq := Document.nodes_apply_congr h.nodes_eq (.change pad.view.display _)
  history_sublist := h.history_sublist

theorem record (h : SameButHistory b b') (event : Event) :
    SameButHistory (b.recorded event) (b'.recorded event) where
  pad_eq := h.pad_eq
  nodes_eq := h.nodes_eq
  history_sublist := h.history_sublist.append_right [event]

theorem controls_eq (h : SameButHistory b b') : b'.controls = b.controls := by
  rw [controls, h.pad_eq, controls]

/-- The same event leads on with the same amount and the same tree, and has the same flag. -/
theorem handle (h : SameButHistory b b') (event : Event) :
    SameButHistory (b.handle event).1 (b'.handle event).1 ∧
      (b'.handle event).2 = (b.handle event).2 := by
  have hrecorded := h.record event
  rw [Bound.handle, Bound.handle, actionFor?_congr h.pad_eq h.nodes_eq]
  cases b.actionFor? event with
  | none => exact ⟨hrecorded, rfl⟩
  | some action =>
    -- the same action is run on both sides, with the same controls
    show SameButHistory ((b.recorded event).run action).1 ((b'.recorded event).run action).1 ∧
      ((b'.recorded event).run action).2 = ((b.recorded event).run action).2
    rw [run_eq_ite, run_eq_ite, hrecorded.controls_eq]
    split
    · refine ⟨?_, rfl⟩
      show SameButHistory ((b.recorded event).ran action) ((b'.recorded event).ran action)
      rw [ran, ran, hrecorded.pad_eq]
      exact hrecorded.setPad _
    · exact ⟨hrecorded, rfl⟩

/-- A click on the same node leads on with the same amount and the same tree, and has the same flag.
-/
theorem clickAny (h : SameButHistory b b') (target : Option Handle) :
    SameButHistory (b.clickAny target).1 (b'.clickAny target).1 ∧
      (b'.clickAny target).2 = (b.clickAny target).2 := by
  cases target with
  | some t => exact h.handle (.click t)
  | none => exact ⟨h, rfl⟩

/-- The same move leads on with the same amount and the same tree, and has the same flag. -/
theorem move (h : SameButHistory b b') (m : Move) :
    SameButHistory (b.move m) (b'.move m) ∧ b'.flag? m = b.flag? m := by
  -- most moves are events, and a look-up goes by nodes that are the same on both sides
  have hevent : ∀ event, SameButHistory (b.handle event).1 (b'.handle event).1 ∧
      some (b'.handle event).2 = some (b.handle event).2 := fun event =>
    (h.handle event).imp_right (congrArg some)
  cases m with
  | handle event => exact hevent event
  | click target => exact hevent (.click target)
  | pressKey key => exact hevent (.keyDown key none)
  | clickId id =>
    rw [Bound.move, Bound.move, flag?, flag?, clickId_eq, clickId_eq,
      Document.byId?_congr h.nodes_eq]
    exact (h.clickAny _).imp_right (congrArg some)
  | clickLabel label =>
    have hfound : b'.pad.view.keyShowing? b'.document label =
        b.pad.view.keyShowing? b.document label := by
      simp only [View.keyShowing?, h.pad_eq, Document.innerText?_congr h.nodes_eq]
    rw [Bound.move, Bound.move, flag?, flag?, clickLabel_eq, clickLabel_eq, hfound]
    exact (h.clickAny _).imp_right (congrArg some)
  | reset =>
    rw [Bound.move, Bound.move, reset, reset, h.pad_eq]
    exact ⟨h.setPad _, rfl⟩
  | edit change =>
    exact ⟨⟨h.pad_eq, Document.nodes_apply_congr h.nodes_eq change,
      Document.history_apply_sublist h.history_sublist change⟩, rfl⟩

end SameButHistory

/-- An event that is refused leaves its record only. -/
theorem handle_sameButHistory {event : Event} (hf : (b.handle event).2 = false) :
    SameButHistory b (b.handle event).1 := by
  rw [handle_refused hf]
  exact ⟨rfl, rfl, List.sublist_append_left _ _⟩

/-- A click that comes to nothing leaves no more than its record. -/
theorem clickAny_sameButHistory {target : Option Handle} (hf : (b.clickAny target).2 = false) :
    SameButHistory b (b.clickAny target).1 := by
  cases target with
  | some t => exact handle_sameButHistory hf
  | none => exact .refl b

/-- A refused move leaves no more than the record of its event, and nothing if it comes to no event. -/
theorem move_sameButHistory {m : Move} (hf : b.flag? m = some false) :
    SameButHistory b (b.move m) := by
  cases m with
  | handle event => exact handle_sameButHistory (Option.some.inj hf)
  | click target => exact handle_sameButHistory (Option.some.inj hf)
  | pressKey key => exact handle_sameButHistory (Option.some.inj hf)
  | clickId id =>
    rw [flag?, clickId_eq] at hf
    rw [move, clickId_eq]
    exact clickAny_sameButHistory (Option.some.inj hf)
  | clickLabel label =>
    rw [flag?, clickLabel_eq] at hf
    rw [move, clickLabel_eq]
    exact clickAny_sameButHistory (Option.some.inj hf)
  | reset => cases hf
  | edit change => cases hf

/-- Moves that are refused in a run leave no trace in it but their records. -/
theorem SameButHistory.play {moves kept : List Move} (ht : b'.Thinned moves kept)
    (h : SameButHistory b b') : SameButHistory (b.play kept) (b'.play moves) := by
  -- both runs are followed at once; between two moves they are at the same amount and the same tree
  induction ht generalizing b with
  | nil b' => exact h
  | keep m _ ih => exact ih (h.move m).1
  | drop hm _ ih =>
    -- the thinner run waits while the other one records what it refuses
    have hwaits := h.trans (move_sameButHistory hm)
    exact ih hwaits

/-- What is not refused has the flag that it had among the refused moves. -/
theorem SameButHistory.flags_heeded (h : SameButHistory b b') (moves : List Move) :
    b.flags (b'.heeded moves) = (b'.flags moves).filter (· ≠ some false) := by
  induction moves generalizing b b' with
  | nil => rfl
  | cons m rest ih =>
    rw [heeded, flags]
    split
    · next hm =>
      rw [hm, ih (h.trans (move_sameButHistory hm))]
      rfl
    · next hm =>
      obtain ⟨hmove, hflag⟩ := h.move m
      rw [flags, ih hmove, List.filter_cons_of_pos (by simpa using hm), hflag]

/-- Events that come one after the other are all recorded, and reach no more of the tree than one of
them does. -/
theorem play_handle (b : Bound) (events : List Event) :
    (b.play (events.map .handle)).document.history = b.document.history ++ events ∧
      Document.KeepsBut b.pad.view.display b.document (b.play (events.map .handle)).document := by
  induction events generalizing b with
  | nil => exact ⟨(List.append_nil _).symm, .of_nodes_eq rfl⟩
  | cons event rest ih =>
    obtain ⟨hhistory, hkeeps⟩ := ih (b.handle event).1
    rw [history_handle, List.append_assoc] at hhistory
    rw [view_handle] at hkeeps
    exact ⟨hhistory, (handle_keepsBut b event).trans hkeeps⟩

/-! ## Binding in place -/

/-- Binds a pad to the document in hand, and writes to it only when all nodes are found. -/
def attachInPlace (s : Settings) : StateM Document (Except Failure Pad) := do
  match View.resolve (← get) s with
  | .error e => return .error e
  | .ok view =>
    let pad : Pad := { view := view }
    modify fun d => d.setText view.display pad.amount.text
    return .ok pad

/-- Binding in place ends with the document that the pad is bound to, or with the one it began
with. -/
theorem attachInPlace_eq (d : Document) (s : Settings) : (attachInPlace s).run d =
    match attach d s with
    | .ok b => (.ok b.pad, b.document)
    | .error e => (.error e, d) := by
  simp only [attachInPlace, StateT.run_bind, StateT.run_get, pure_bind, attach]
  cases View.resolve d s <;> rfl

/-- Binding a pad writes an empty text to its display. -/
theorem attach_ok {d : Document} {s : Settings} {b : Bound} (hb : attach d s = .ok b) :
    b.pad.amount = .empty ∧ b.document = d.setText b.pad.view.display "" := by
  obtain ⟨view, -, rfl⟩ := attach_eq_ok_iff.mp hb
  exact ⟨rfl, rfl⟩

/-- Binding a pad records nothing, and reaches no more of the tree than the text of the display. -/
theorem attach_keepsBut {d : Document} {s : Settings} {b : Bound} (hb : attach d s = .ok b) :
    Document.KeepsBut b.pad.view.display d b.document ∧ b.document.history = d.history := by
  obtain ⟨-, hdocument⟩ := attach_ok hb
  rw [hdocument]
  exact ⟨.setText d _ _, rfl⟩

/-- The display of a pad that was just bound shows nothing, whatever it showed before. -/
theorem shown?_of_attach {d : Document} {s : Settings} {b : Bound} (hb : attach d s = .ok b) :
    b.shown? = some "" := by
  -- the display was found in the document, so that it has a text
  have hdisplay := display_lt_of_attach hb
  obtain ⟨-, hdocument⟩ := attach_ok hb
  rw [shown?, hdocument]
  exact Document.text?_setText_self hdisplay ""

/-! ## The frame of a pad -/

/-- What an event has done to a pad and its document, by its flag. A display that the document does
not have shows nothing, before and after. -/
structure Frame (b : Bound) (event : Event) (after : Bound) (flag : Bool) : Prop where
  history_eq : after.document.history = b.document.history ++ [event]
  keeps : Document.KeepsBut b.pad.view.display b.document after.document
  view_eq : after.pad.view = b.pad.view
  flag_eq : flag = false ↔ b.Refuses event
  refused : flag = false → after.pad = b.pad ∧ after.document.nodes = b.document.nodes
  ran : flag = true → ∃ action, b.Asks event action ∧ b.controls.permits action = true ∧
    after.pad.amount = b.pad.amount.apply action ∧
    after.document.nodes =
      (b.document.setText b.pad.view.display after.pad.amount.text).nodes ∧
    (b.pad.view.display < b.document.size → after.shown? = some after.pad.amount.text)

/-- **What an event leaves alone**: all but its record where it is refused, and all but the record,
the amount and the display where it runs. -/
theorem handle_frame (b : Bound) (event : Event) :
    Frame b event (b.handle event).1 (b.handle event).2 where
  history_eq := history_handle b event
  keeps := handle_keepsBut b event
  view_eq := view_handle b event
  flag_eq := handle_eq_false_iff b event
  refused := fun hf => by
    rw [handle_refused hf]
    exact ⟨rfl, rfl⟩
  ran := fun hf => by
    rcases handle_cases b event with ⟨action, ha, hp, hh⟩ | ⟨-, hh⟩
    · refine ⟨action, ha, hp, ?_⟩
      rw [hh]
      refine ⟨rfl, rfl, fun hdisplay => ?_⟩
      -- recording the event has taken no node away
      exact shown?_sync hdisplay
    · rw [hh] at hf
      cases hf

/-- A pad of which the page has no node left still hears its clear control, and no longer its key. -/
example : ([.click 7, .click 5].map fun event =>
    (Bound.handle ⟨{}, ⟨⟨[5], 9, some 7, none⟩, ⟨"21"⟩⟩⟩ event)) =
      [(⟨{ history := [.click 7] }, ⟨⟨[5], 9, some 7, none⟩, .empty⟩⟩, true),
        (⟨{ history := [.click 5] }, ⟨⟨[5], 9, some 7, none⟩, ⟨"21"⟩⟩⟩, false)] := by
  decide

/-- **Events keep all but the display.** This holds of every pad on every document, also if the
document does not have the nodes of the pad. An event is recorded behind the others and reaches
nothing else but the text of the display; what it asks for is told by the document that it finds;
and if it runs, the display shows the new amount, where there is a display. If the pad refuses it,
the amount and all nodes stay as they are. So refused moves, any of them or all, can be left out of
a run, whatever else happens to the page in it: the amount and the nodes come out the same, only
records are missing, and the moves that are left have the flags they had. Binding a pad fails and
leaves the document as it is, or leaves all of it but the text of the display, which shows nothing
from then on. -/
theorem events_keep_all_but_display :
    (∀ (b : Bound) (event : Event), Frame b event (b.handle event).1 (b.handle event).2) ∧
    (∀ (b : Bound) (moves : List Move),
      (∀ kept, b.Thinned moves kept → SameButHistory (b.play kept) (b.play moves)) ∧
      SameButHistory (b.play (b.heeded moves)) (b.play moves) ∧
      b.flags (b.heeded moves) = (b.flags moves).filter (· ≠ some false)) ∧
    (∀ (b : Bound) (events : List Event),
      (b.play (events.map .handle)).document.history = b.document.history ++ events ∧
      Document.KeepsBut b.pad.view.display b.document (b.play (events.map .handle)).document) ∧
    (∀ (d : Document) (s : Settings),
      (∀ e, attach d s = .error e → (attachInPlace s).run d = (.error e, d)) ∧
      ∀ b, attach d s = .ok b → (attachInPlace s).run d = (.ok b.pad, b.document) ∧
        b.pad.amount = .empty ∧ b.document = d.setText b.pad.view.display "" ∧
        Document.KeepsBut b.pad.view.display d b.document ∧
        b.document.history = d.history ∧ b.shown? = some "") := by
  refine ⟨handle_frame, ?runs, play_handle, ?binding⟩
  case runs =>
    intro b moves
    -- a run and a thinner one of it start from the same pad
    have hstart := SameButHistory.refl b
    exact ⟨fun kept ht => hstart.play ht, hstart.play (b.thinned_heeded moves),
      hstart.flags_heeded moves⟩
  case binding =>
    intro d s
    constructor
    · intro e he
      rw [attachInPlace_eq, he]
    · intro b hb
      obtain ⟨hamount, hdocument⟩ := attach_ok hb
      obtain ⟨hkeeps, hhistory⟩ := attach_keepsBut hb
      refine ⟨?_, hamount, hdocument, hkeeps, hhistory, shown?_of_attach hb⟩
      rw [attachInPlace_eq, hb]

/-- A page whose display shows what was left there by a pad before. -/
def usedPage : Document := crowdedPage.apply (.change 2 fun e => { e with text := "99" })

/-- Binding a pad to that page empties the display. A click on the display, which is a key, then
runs and shows; a backspace, which is not wired, is recorded and leaves all nodes. -/
theorem events_keep_all_but_display_used :
    usedPage.text? 2 = some "99" ∧ attach usedPage {} = .ok crowdedPad ∧
      crowdedPad.shown? = some "" ∧
      (crowdedPad.handle (.click 2)).1.shown? = some "7" ∧
      (crowdedPad.handle (.keyDown "Backspace" none)).1.document.nodes =
        crowdedPad.document.nodes ∧
      (crowdedPad.handle (.keyDown "Backspace" none)).1.document.history =
        [.keyDown "Backspace" none] := by
  obtain ⟨hframe, -, -, hbinding⟩ := events_keep_all_but_display
  have hb : attach usedPage {} = .ok crowdedPad := by rfl
  obtain ⟨-, -, -, -, -, hshown⟩ := (hbinding usedPage {}).2 crowdedPad hb
  obtain ⟨-, -, -, -, -, hshows⟩ := (hframe crowdedPad (.click 2)).ran rfl
  have hrefused := (hframe crowdedPad (.keyDown "Backspace" none)).refused rfl
  have hrecorded := (hframe crowdedPad (.keyDown "Backspace" none)).history_eq
  exact ⟨rfl, hb, hshown, hshows (by decide), hrefused.2, hrecorded⟩

end Bound

end AmountPad.Page
