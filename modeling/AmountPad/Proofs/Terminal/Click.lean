import Mathlib
import AmountPad.Proofs.Terminal.ButtonGrid
import AmountPad.Proofs.Terminal.Routes
import AmountPad.Terminal.Session

/-!
# A click that meets a button runs it

Which button is under a point is told by the geometry of the screen, and what a button does by the
keys of the layout and by the controls that are wired. The two never disagree: a button that can be
hit is one that the pad has, so that a click on it is not refused, and the button that is marked
afterwards is the one that was hit.

* `Button.Enters` — what a button makes of an amount.

Main results:

* `exists_belongs_of_hitTest` — a button that is hit has an action, and the controls permit it;
* `App.click_of_belongs` — a click on such a button runs this action and marks the button;
* `App.hit_always_runs` — a hit is never refused, in whatever state the app is.
-/

namespace AmountPad

/-- What a button makes of an amount: the label of a key is written behind it, a control empties it
or takes back its last character. -/
def Button.Enters (layout : Layout) (before after : Amount) : Button → Prop
  | .key index => ∃ label, layout.labels[index]? = some label ∧ after.text = before.text ++ label
  | .control .clear => after.text = ""
  | .control .backspace => after.text.toList = before.text.toList.dropLast

/-- The action of a button makes of an amount what the button makes of it. -/
theorem Button.Belongs.enters {layout : Layout} {b : Button} {action : Action}
    (h : b.Belongs layout action) (amount : Amount) :
    b.Enters layout amount (amount.apply action) := by
  cases b with
  | key index =>
    cases action with
    | append label => exact ⟨label, h, rfl⟩
    | clear => exact h.elim
    | backspace => exact h.elim
  | control control =>
    obtain rfl : action = .ofControl control := h
    cases control with
    | clear => rfl
    | backspace => exact Amount.toList_backspace amount

namespace Terminal

/-- A button that is hit is one of the pad: it has an action, and the controls permit it. -/
theorem exists_belongs_of_hitTest {layout : Layout} (hlayout : layout.IsGrid) {wired : Controls}
    {area : Rect} {x y : Nat} {b : Button} (h : hitTest layout wired area x y = some b) :
    ∃ action, b.Belongs layout action ∧ wired.permits action = true := by
  cases hg : Grid.of? layout wired area with
  | none =>
    -- without a grid no point belongs to a button
    unfold hitTest at h
    rw [hg] at h
    cases h
  | some g =>
    have hdiv := Grid.divides_of_of? hg
    obtain ⟨hhas, -⟩ := (hitTest_eq_some_iff hg).mp h
    cases b with
    | key index =>
      -- the grid has as many cells as the layout has keys
      have hindex : index < layout.labels.length := by
        unfold Grid.Has at hhas
        rwa [hdiv.rows_eq, hdiv.cols_eq, ← hlayout.keyCount_eq, ← layout.length_labels] at hhas
      exact ⟨.append layout.labels[index], List.getElem?_eq_getElem hindex, rfl⟩
    | control control => exact ⟨.ofControl control, rfl, hhas⟩

/-- The part of a screen that the keypad takes ends where the screen does, or before. -/
theorem keypadArea_fits {screen : Rect} (h : screen.Fits) : (keypadArea screen).Fits := by
  obtain ⟨hright, hbottom⟩ := h
  unfold Rect.right at hright
  unfold Rect.bottom at hbottom
  unfold keypadArea Sections.of Sections.heights Rect.shrink Rect.Fits Rect.right Rect.bottom
  dsimp only
  split
  · -- no margin leaves anything
    unfold Rect.zero maxCoordinate
    dsimp only
    omega
  · unfold Rect.inner
    dsimp only
    omega

namespace App

/-- A click on a button runs the action of the button, if the controls permit it, and marks the
button. -/
theorem click_of_belongs {app : App} (hg : app.layout.IsGrid) {b : Button} {action : Action}
    (hb : b.Belongs app.layout action) (hp : app.controls.permits action = true) :
    app.click b = (app.mark b action, true) := by
  cases b with
  | key index =>
    cases action with
    | append label =>
      -- the label of the key is what its own append enters
      have hkey : app.layout.labels[index]? = some label := hb
      unfold click
      rw [Layout.actionOf?_key, hkey]
      exact apply_key hg hkey
    | clear => exact hb.elim
    | backspace => exact hb.elim
  | control control =>
    obtain rfl : action = .ofControl control := hb
    show app.apply (.ofControl control) = (app.mark (.control control) (.ofControl control), true)
    rw [apply_control, if_pos hp]

/-- A click on a button that is hit runs it. -/
theorem click_of_hitTest {app : App} (hg : app.layout.IsGrid) {area : Rect} {x y : Nat} {b : Button}
    (h : hitTest app.layout app.controls area x y = some b) :
    ∃ amount, app.click b = ({ app with amount := amount, pressed := some b }, true) ∧
      b.Enters app.layout app.amount amount := by
  obtain ⟨action, hb, hp⟩ := exists_belongs_of_hitTest hg h
  exact ⟨app.amount.apply action, click_of_belongs hg hb hp, hb.enters app.amount⟩

/-- **A hit always runs.** For every layout that can be read, all controls and every app that moves
lead to: if a point of a rectangle that ends before the last coordinate belongs to a button, a click
on the button runs, changes the amount as the button does and marks the button, and leaves the rest
of the app. So a press of the left button of a mouse never comes to a button that refuses it, and
where it comes to no button, the app stays as it is. -/
theorem hit_always_runs {rows : List (List String)} {layout : Layout}
    (hl : Layout.ofRows rows = .ok layout) (wired : Controls) (moves : List Move) :
    let app := (fresh layout wired).play moves
    (∀ area : Rect, area.Fits → ∀ x y b,
      Word.hitTest app.layout app.controls area x y = .ok (some b) →
      ∃ amount, app.click b = ({ app with amount := amount, pressed := some b }, true) ∧
        b.Enters layout app.amount amount) ∧
    ∀ width height x y,
      let screen := Rect.clipped 0 0 width height
      Word.hitTest app.layout app.controls (keypadArea screen) x y =
          .ok (app.buttonUnder? screen x y) ∧
        (∀ b, app.buttonUnder? screen x y = some b →
          (app.click b).2 = true ∧ app.event screen (.leftPress x y) = (app.click b).1) ∧
        (app.buttonUnder? screen x y = none → app.event screen (.leftPress x y) = app) := by
  intro app
  -- no move has changed the layout or the controls
  have hlayout : app.layout = layout := (play_accords layout wired moves).layout_eq
  have hg : app.layout.IsGrid := hlayout ▸ Layout.isGrid_of_ofRows hl
  constructor
  · intro area hfits x y b h
    rw [Word.hitTest_eq hg hfits] at h
    rw [← hlayout]
    exact click_of_hitTest hg (Except.ok.inj h)
  · intro width height x y screen
    have hfits : (keypadArea screen).Fits :=
      keypadArea_fits (Rect.clipped_fits width height (Nat.zero_le _) (Nat.zero_le _))
    refine ⟨Word.hitTest_eq hg hfits x y, ?hit, ?miss⟩
    case hit =>
      intro b hb
      obtain ⟨amount, hclick, -⟩ := click_of_hitTest hg hb
      refine ⟨congrArg Prod.snd hclick, ?_⟩
      rw [event, hb]
    case miss =>
      intro hnone
      rw [event, hnone]

/-- On a pad without a backspace, after an entry: clicks on the last key and on the clear control, and
one in the half of the control that is not there. -/
theorem hit_always_runs_half :
    let app := (fresh .satoshi ⟨true, false⟩).play [.press "7", .click (.key 9)]
    (∃ amount, app.click (.key 11) =
        ({ app with amount := amount, pressed := some (.key 11) }, true) ∧
      amount.text = "700" ++ "000") ∧
    (∃ amount, app.click (.control .clear) =
        ({ app with amount := amount, pressed := some (.control .clear) }, true) ∧
      amount.text = "") ∧
    app.event (.clipped 0 0 40 24) (.leftPress 30 19) = app := by
  have hl : Layout.ofRows Layout.satoshiRows = .ok .satoshi := rfl
  have hfits : (⟨0, 0, 26, 12⟩ : Rect).Fits := by
    unfold Rect.Fits
    decide
  intro app
  obtain ⟨hhit, hmouse⟩ := hit_always_runs hl ⟨true, false⟩ [.press "7", .click (.key 9)]
  obtain ⟨amount, hclick, label, hlabel, htext⟩ := hhit ⟨0, 0, 26, 12⟩ hfits 24 8 (.key 11) rfl
  obtain rfl : "000" = label := Option.some.inj hlabel
  have hclear := hhit ⟨0, 0, 26, 12⟩ hfits 2 9 (.control .clear) rfl
  obtain ⟨-, -, hmiss⟩ := hmouse 40 24 30 19
  exact ⟨⟨amount, hclick, htext⟩, hclear, hmiss rfl⟩

end App

end Terminal

end AmountPad
