import Mathlib
import AmountPad.Proofs.Frontend
import AmountPad.Proofs.Page.Binding
import AmountPad.Proofs.Page.Frame
import AmountPad.Proofs.Terminal.Moves

/-!
# A reset leaves nothing behind

A reset is meant to go back to the state in which a frontend started. It only writes a few things:
the amount, the text of the display, the history of the page and the button that is marked. So it
has to be shown that no operation touches anything else, also where a page has given two roles to one
node. This is an equation of one step, that a reset forgets the operation in front of it, and from
it the same for every list of operations.

* `Frontend.after` — a frontend after a list of operations;
* `Frontend.Forgetful` — a reset forgets any one operation in front of it;
* `Bound.wiped` — the nodes of a page without the text of the display.

Main results:

* `Frontend.Forgetful.reset_after` — a reset forgets every list of operations;
* `Page.Desk.forgetful`, `Terminal.App.forgetful` — both frontends are of this kind;
* `Frontend.reset_makes_fresh` — after a reset a frontend is as it was at its start.
-/

namespace AmountPad

namespace Frontend

variable {σ : Type} [Frontend σ]

/-- A frontend after a list of operations. -/
def after (s : σ) (ops : List Operation) : σ := ops.foldl (fun s op => (perform s op).1) s

theorem after_concat_reset (s : σ) (ops : List Operation) :
    after s (ops ++ [.reset]) = reset (after s ops) := by
  unfold after
  rw [List.foldl_concat]
  rfl

/-- Frontends of which a reset forgets any one operation in front of it. -/
structure Forgetful (σ : Type) [Frontend σ] : Prop where
  press : ∀ (s : σ) label, reset (press s label).1 = reset s
  use : ∀ (s : σ) control, reset (Scenario.useControl s control).1 = reset s
  reset : ∀ s : σ, reset (reset s) = reset s

namespace Forgetful

variable (hf : Forgetful σ)
include hf

/-- No operation changes what a reset gives. -/
theorem reset_perform (s : σ) (op : Operation) : Frontend.reset (perform s op).1 =
    Frontend.reset s := by
  cases op with
  | press label => exact hf.press s label
  | use control => exact hf.use s control
  | reset => exact hf.reset s

/-- A reset forgets every list of operations in front of it. -/
theorem reset_after (s : σ) (ops : List Operation) :
    Frontend.reset (after s ops) = Frontend.reset s := by
  induction ops generalizing s with
  | nil => rfl
  | cons op rest ih =>
    show Frontend.reset (after (perform s op).1 rest) = Frontend.reset s
    rw [ih, hf.reset_perform]

/-- Where a reset has nothing to do at the start, it always leads back to the start, and whatever
comes behind it is as if nothing had been in front. -/
theorem fresh_of_reset_eq {start : σ} (hstart : Frontend.reset start = start)
    (ops : List Operation) : Frontend.reset (after start ops) = start ∧
      LooksLike (after start (ops ++ [.reset])) start := by
  have hback : Frontend.reset (after start ops) = start := (hf.reset_after start ops).trans hstart
  refine ⟨hback, ?_⟩
  rw [after_concat_reset, hback]
  exact ⟨rfl, fun _ => rfl⟩

end Forgetful

end Frontend

/-! ## Pads on pages -/

namespace Page

/-- Of two texts that are written to a node one after the other, the second is left. -/
theorem Document.setText_setText (d : Document) (h : Handle) (text text' : String) :
    (d.setText h text).setText h text' = d.setText h text' := by
  unfold setText edit
  rw [List.modify_modify_eq]
  rfl

/-- Building a page records no event. -/
theorem Document.history_appendAll (d : Document) (parent : Handle) (es : List Element) :
    (d.appendAll parent es).history = d.history := by
  induction es generalizing d with
  | nil => rfl
  | cons e rest ih => exact ih (d.append parent e)

theorem Document.history_ofKeypad (layout : Layout) (markup : Markup) (variant : Variant) :
    (ofKeypad layout markup variant).history = [] := by
  unfold ofKeypad
  rw [history_appendAll]
  show (appendAll _ _ _).history = []
  rw [history_appendAll]
  rfl

namespace Bound

/-- The nodes of a page, with no text in the display. -/
def wiped (b : Bound) : List Node := (b.document.setText b.pad.view.display "").nodes

/-- Writing the display changes nothing that a wiped pad has left. -/
theorem wiped_sync (b : Bound) : b.sync.wiped = b.wiped := by
  show ((b.document.setText b.pad.view.display b.pad.amount.text).setText b.pad.view.display
    "").nodes = b.wiped
  rw [Document.setText_setText]
  rfl

/-- An event changes nothing of the page that a reset would not write anew. -/
theorem wiped_handle (b : Bound) (event : Event) : (b.handle event).1.wiped = b.wiped := by
  rcases handle_cases b event with ⟨action, -, -, hran⟩ | ⟨-, hrefused⟩
  · rw [hran]
    exact wiped_sync _
  · rw [hrefused]
    rfl

end Bound

namespace Desk

/-- What a reset makes of a desk is told by its view, its identifiers and the nodes of its page
without the text of the display. -/
theorem reset_eq (desk : Desk) : desk.reset =
    { desk with bound := ⟨⟨desk.bound.wiped, []⟩, { view := desk.bound.pad.view }⟩ } := rfl

/-- No event changes what a reset of the desk gives. -/
theorem reset_after_handle (desk : Desk) (event : Event) :
    (desk.after (desk.bound.handle event)).1.reset = desk.reset := by
  rw [reset_eq, reset_eq]
  show { desk with bound := ⟨⟨(desk.bound.handle event).1.wiped, []⟩,
    { view := (desk.bound.handle event).1.pad.view }⟩ } = _
  rw [Bound.wiped_handle, Bound.view_handle]

theorem reset_after_clickAny (desk : Desk) (target : Option Handle) :
    (desk.after (desk.bound.clickAny target)).1.reset = desk.reset := by
  cases target with
  | none => rfl
  | some h => exact reset_after_handle desk (.click h)

/-- All that a user does at a desk is a click, or comes to nothing. -/
theorem forgetful : Frontend.Forgetful Desk where
  press := fun desk label => by
    show (desk.after (desk.bound.clickLabel label)).1.reset = desk.reset
    rw [Bound.clickLabel_eq]
    exact reset_after_clickAny desk _
  use := fun desk control => by
    cases control with
    | clear =>
      show (desk.after (desk.bound.clickId desk.clearId)).1.reset = desk.reset
      rw [Bound.clickId_eq]
      exact reset_after_clickAny desk _
    | backspace =>
      show (desk.after (desk.bound.clickId desk.backspaceId)).1.reset = desk.reset
      rw [Bound.clickId_eq]
      exact reset_after_clickAny desk _
  reset := fun desk => by
    show desk.reset.reset = desk.reset
    -- a second reset finds nothing left to wipe
    rw [reset_eq desk.reset, reset_eq desk]
    have hwiped : desk.bound.reset.wiped = desk.bound.wiped := Bound.wiped_sync _
    show { desk with bound := ⟨⟨desk.bound.reset.wiped, []⟩, { view := desk.bound.pad.view }⟩ } = _
    rw [hwiped]

/-- A desk that was just built has nothing to reset. -/
theorem reset_of_ofSettings {variant : Variant} {s : Settings} {desk : Desk}
    (h : ofSettings variant s = .ok desk) : desk.reset = desk := by
  obtain ⟨layout, bound, -, hbound, rfl⟩ := ofSettings_eq_ok_iff.mp h
  obtain ⟨view, -, rfl⟩ := Bound.attach_eq_ok_iff.mp hbound
  have hwiped : (Bound.sync ⟨.ofKeypad layout s.markup variant, { view := view }⟩).wiped =
      (Document.setText (.ofKeypad layout s.markup variant) view.display "").nodes :=
    Bound.wiped_sync _
  have hhistory : (Document.setText (.ofKeypad layout s.markup variant) view.display "").history =
      [] := Document.history_ofKeypad layout s.markup variant
  rw [reset_eq, hwiped]
  show _ = Desk.mk ⟨.setText (.ofKeypad layout s.markup variant) view.display "",
    { view := view }⟩ s.markup.clearId s.markup.backspaceId
  rw [← hhistory]
  rfl

end Desk

end Page

/-! ## Apps -/

namespace Terminal.App

theorem reset_applyAny (app : App) (action : Option Action) :
    (app.applyAny action).1.reset = app.reset := by
  cases action with
  | none => rfl
  | some action =>
    show (app.apply action).1.reset = app.reset
    unfold apply
    cases app.amount.run? app.controls action <;> rfl

/-- What a user presses on a terminal is an action, or comes to nothing. -/
theorem forgetful : Frontend.Forgetful App where
  press := fun app label => reset_applyAny app _
  use := fun app control => by
    cases control with
    | clear => exact reset_applyAny app (some .clear)
    | backspace => exact reset_applyAny app (some .backspace)
  reset := fun app => rfl

end Terminal.App

namespace Frontend

open Page Terminal

/-- **A reset makes a frontend fresh.** A pad that was built and bound over settings, whatever their
identifiers have in common, and an app over any layout and controls: after every list of operations
a reset leads back to the whole state at the start, and from there on a user sees what they see of a
frontend that is new. -/
theorem reset_makes_fresh :
    (∀ variant s desk, Desk.ofSettings variant s = .ok desk → ∀ ops,
      reset (after desk ops) = desk ∧ LooksLike (after desk (ops ++ [.reset])) desk) ∧
    ∀ layout wired ops,
      reset (after (App.fresh layout wired) ops) = App.fresh layout wired ∧
        LooksLike (after (App.fresh layout wired) (ops ++ [.reset])) (App.fresh layout wired) := by
  constructor
  · intro variant s desk hdesk ops
    exact Desk.forgetful.fresh_of_reset_eq (Desk.reset_of_ofSettings hdesk) ops
  · intro layout wired ops
    have hstart : (App.fresh layout wired).reset = App.fresh layout wired := rfl
    exact App.forgetful.fresh_of_reset_eq hstart ops

/-- Settings that look for the display in place of the panel, take the display for backspace as well,
and the first key for clear. -/
def crossedSettings : Settings where
  markup := { displayId := "amount-panel", clearId := "key-0-0", backspaceId := "amount-panel" }
  rows := [["7", "8"]]

/-- A key, a key that clears, a click on the display, and a text that is no label. -/
theorem reset_makes_fresh_crossed :
    ∃ desk, Desk.ofSettings .withControls crossedSettings = .ok desk ∧
      (after desk [.press "8", .press "8", .use .backspace]).content = "8" ∧
      reset (after desk [.press "8", .press "8", .use .backspace, .press "7", .press "x"]) = desk ∧
      transcript (after desk [.press "8", .reset]) [.press "8", .use .clear] =
        [(some true, "8", .all), (some true, "", .all)] := by
  obtain ⟨hdesk, -⟩ := reset_makes_fresh
  refine ⟨_, rfl, by decide +kernel, ?_, ?_⟩
  · exact (hdesk .withControls crossedSettings _ rfl
      [.press "8", .press "8", .use .backspace, .press "7", .press "x"]).1
  · have hlooks := (hdesk .withControls crossedSettings _ rfl [.press "8"]).2
    rw [show [Operation.press "8", .reset] = [.press "8"] ++ [.reset] from rfl, hlooks.2]
    decide +kernel

end Frontend

end AmountPad
