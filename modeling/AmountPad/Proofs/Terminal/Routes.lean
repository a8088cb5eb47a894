import Mathlib
import AmountPad.Proofs.Replay
import AmountPad.Proofs.Terminal.Moves

/-!
# All routes to a button lead to the same state

A key can be reached by its label, by its index, by a scripted token and, if the label is a single
character, by typing it; a control by a click, by the tokens that name it and by a keyboard key.
Each of these routes looks for the button in its own way, and where a label spells a control or is
the letter that else leaves, each has to decide for the label. They all end with the same app.

* `App.mark` — an app on which the action of a button has run;
* `Control.words`, `Command.ofControl` — the tokens and the command that stand for a control.

Main results:

* `App.apply_key`, `App.apply_control` — what the action of a button does;
* `App.key_routes`, `App.control_routes` — the routes to a key, and those to a control;
* `App.routes_agree` — all of it for every app that can be reached.
-/

namespace AmountPad

/-- The tokens that name a control, in small letters. -/
def Control.words : Control → List String
  | .clear => ["clear", "c"]
  | .backspace => ["backspace", "bs", "<"]

namespace Terminal

/-- What the keyboard key of a control asks for. -/
def Command.ofControl : Control → Command
  | .clear => .clear
  | .backspace => .backspace

namespace App

/-- An app on which the action of a button has run. -/
def mark (app : App) (b : Button) (action : Action) : App :=
  { app with amount := app.amount.apply action, pressed := some b }

/-! ## What the action of a button does -/

/-- The action of a key runs, and marks the key. -/
theorem apply_key {app : App} (hg : app.layout.IsGrid) {index : Nat} {label : String}
    (h : app.layout.labels[index]? = some label) :
    app.apply (.append label) = (app.mark (.key index) (.append label), true) := by
  -- labels differ, so that the label leads back to this key
  have hbutton : app.layout.buttonOf? (.append label) = some (.key index) :=
    hg.buttonOf?_eq_some_iff.mpr h
  have hrun : app.amount.run? app.controls (.append label) =
      some (app.amount.apply (.append label)) := rfl
  rw [apply_of_run?_eq_some hrun, hbutton]
  rfl

/-- The action of a control runs if the control is wired, and marks the control. -/
theorem apply_control (app : App) (control : Control) :
    app.apply (.ofControl control) =
      if app.controls.permits (.ofControl control) = true then
        (app.mark (.control control) (.ofControl control), true)
      else (app, false) := by
  by_cases hp : app.controls.permits (.ofControl control) = true
  · have hrun : app.amount.run? app.controls (.ofControl control) =
        some (app.amount.apply (.ofControl control)) := by simp [Amount.run?, hp]
    rw [if_pos hp, apply_of_run?_eq_some hrun]
    cases control <;> rfl
  · rw [if_neg hp]
    exact apply_of_not_permits (by simpa using hp)

/-! ## Tokens -/

/-- A label as a token stands for itself, also where it spells a control. -/
theorem readToken_label {layout : Layout} {label : String} (h : label ∈ layout.labels) :
    layout.readToken label = .ok (.append label) := by
  unfold Layout.readToken
  rw [Replay.readToken?_eq_meaning?, Replay.meaning?, if_pos h]

/-- A token that is no label stands for the control that it names. -/
theorem readToken_word {layout : Layout} {token : String} (hnot : token ∉ layout.labels)
    {control : Control} (hword : token.toLower ∈ control.words) :
    layout.readToken token = .ok (.ofControl control) := by
  unfold Layout.readToken
  rw [Replay.readToken?_eq_meaning?, Replay.meaning?, if_neg hnot]
  cases control with
  | clear =>
    rw [if_pos (show token.toLower ∈ ["clear", "c"] from hword)]
    rfl
  | backspace =>
    have hother : token.toLower ∉ ["clear", "c"] := by
      intro hclear
      -- no word names both
      have hdisjoint : ∀ word ∈ Control.words .backspace, word ∉ ["clear", "c"] := by decide
      exact hdisjoint _ hword hclear
    rw [if_neg hother, if_pos (show token.toLower ∈ ["backspace", "bs", "<"] from hword)]
    rfl

/-! ## Routes -/

/-- The routes to a key: its label, its index, a token and, for a single character, typing it. -/
theorem key_routes {app : App} (hg : app.layout.IsGrid) {index : Nat} {label : String}
    (h : app.layout.labels[index]? = some label) :
    let after := (app.mark (.key index) (.append label), true)
    app.press label = after ∧ app.click (.key index) = after ∧
      (app.layout.readToken label).map app.apply = .ok after ∧
      ∀ c : Char, c.toString = label → app.command (.insert c) = after := by
  intro after
  have hmem : label ∈ app.layout.labels := List.mem_of_getElem? h
  have happly : app.apply (.append label) = after := apply_key hg h
  have hfound : (app.layout.findLabel? label).map Key.action = some (.append label) := by
    rw [Layout.map_action_findLabel?, if_pos hmem]
  refine ⟨?press, ?click, ?token, ?type⟩
  case press =>
    unfold press
    rw [hfound]
    exact happly
  case click =>
    unfold click
    rw [Layout.actionOf?_key, h]
    exact happly
  case token =>
    rw [readToken_label hmem]
    exact congrArg Except.ok happly
  case type =>
    rintro c rfl
    -- a typed label is pressed, also where it is the letter that else leaves
    have hstay : ¬(c = 'q' ∧ "q" ∉ app.layout.labels) := by
      rintro ⟨rfl, hnot⟩
      exact hnot hmem
    show app.type c = after
    rw [type_eq_ite, if_neg hstay, hfound]
    exact happly

/-- The routes to a control: a click, its keyboard key, and the tokens that name it. -/
theorem control_routes (app : App) (control : Control) {token : String}
    (hnot : token ∉ app.layout.labels) (hword : token.toLower ∈ control.words) :
    app.click (.control control) = app.apply (.ofControl control) ∧
      app.command (.ofControl control) = app.apply (.ofControl control) ∧
      (app.layout.readToken token).map app.apply = .ok (app.apply (.ofControl control)) := by
  refine ⟨rfl, ?command, ?token⟩
  case command => cases control <;> rfl
  case token =>
    rw [readToken_word hnot hword]
    rfl

/-- **All routes to a button lead to the same state.** For every layout that can be read, all
controls and every app that moves lead to: pressing the label of a key, clicking its index, running
it as a token and, for a single character, typing it all run and lead to the app on which the action
of the key has run. Clicking a control, its keyboard key and every token that names it, unless that
is a label, all do the same: they run the action of the control if it is wired, and else change
nothing. -/
theorem routes_agree {rows : List (List String)} {layout : Layout}
    (hl : Layout.ofRows rows = .ok layout) (wired : Controls) (moves : List Move) :
    let app := (fresh layout wired).play moves
    (∀ index label, layout.labels[index]? = some label →
      let after := (app.mark (.key index) (.append label), true)
      app.press label = after ∧ app.click (.key index) = after ∧
        (layout.readToken label).map app.apply = .ok after ∧
        ∀ c : Char, c.toString = label → app.command (.insert c) = after) ∧
      ∀ control token, token ∉ layout.labels → token.toLower ∈ control.words →
        let after := if wired.permits (.ofControl control) = true then
          (app.mark (.control control) (.ofControl control), true) else (app, false)
        app.click (.control control) = after ∧ app.command (.ofControl control) = after ∧
          (layout.readToken token).map app.apply = .ok after := by
  intro app
  -- after any moves, layout and controls are those at the start
  have hplay := play_accords layout wired moves
  have hlayout : app.layout = layout := hplay.layout_eq
  have hcontrols : app.controls = wired := hplay.controls_eq
  constructor
  · intro index label h
    rw [← hlayout] at h ⊢
    exact key_routes (hlayout ▸ Layout.isGrid_of_ofRows hl) h
  · intro control token hnot hword
    rw [← hlayout] at hnot ⊢
    rw [← hcontrols, ← apply_control]
    exact control_routes app control hnot hword

/-- The keys of this layout spell the letter that leaves, and a control. -/
def spelling : Layout := ⟨Layout.gridKeys 0 [["q", "C"]], 1, 2⟩

theorem routes_agree_spelling :
    let app := (fresh spelling ⟨true, false⟩).play [.press "C", .command (some (.insert 'x'))]
    (app.command (.insert 'q')).1.amount.text = "Cq" ∧
      (spelling.readToken "C").map app.apply = .ok (app.click (.key 1)) ∧
      (spelling.readToken "c").map app.apply = .ok (app.click (.control .clear)) ∧
      app.command .backspace = (app, false) := by
  have hl : Layout.ofRows [["q", "C"]] = .ok spelling := by rfl
  intro app
  obtain ⟨hkeys, hcontrols⟩ :=
    routes_agree hl ⟨true, false⟩ [.press "C", .command (some (.insert 'x'))]
  obtain ⟨-, -, -, htyped⟩ := hkeys 0 "q" rfl
  obtain ⟨-, hclick, htoken, -⟩ := hkeys 1 "C" rfl
  obtain ⟨hclear, -, hword⟩ := hcontrols .clear "c" (by decide) (by decide +kernel)
  obtain ⟨-, hback, -⟩ := hcontrols .backspace "BS" (by decide) (by decide +kernel)
  refine ⟨?_, htoken.trans (congrArg Except.ok hclick.symm),
    hword.trans (congrArg Except.ok hclear.symm), hback⟩
  rw [htyped 'q' rfl]
  rfl

end App

end Terminal

end AmountPad
