import Mathlib
import AmountPad.Proofs.Layout.Grid
import AmountPad.Proofs.Terminal.App

/-!
# What moves make of an app

An app keeps an amount, the button that ran last, and whether the user wants to leave. All three can
be told from what has happened to it, without an app: which action a move runs depends on the layout
and the controls alone, the amount is what the actions since the last reset have entered, the button
is that of the last of these actions, and the user wants to leave once a move has said so.

* `App.Move` — what can happen to an app; `App.move`, `App.play` — one move, and a list of them;
* `Move.runs?`, `Move.quits` — the action that a move runs, and whether it makes the user leave;
* `App.ran` — the actions run since the last reset;
* `Button.Belongs` — the button to which an action belongs.

Main results:

* `App.move_of_runs?_eq_some`, `App.move_of_runs?_eq_none` — all that a move can do;
* `App.Accords.move`, `App.play_accords` — one move keeps the invariant, and so does a list of them;
* `App.state_told_by_moves` — what can be told of an app from its moves.
-/

namespace AmountPad

/-- Whether a button is the one of an action: a key is that of its label, a control that of its
action. -/
def Button.Belongs (layout : Layout) : Button → Action → Prop
  | .key index, .append label => layout.labels[index]? = some label
  | .control c, action => action = .ofControl c
  | _, _ => False

/-- On a grid, the button that is found for an action is the one to which it belongs. -/
theorem Layout.IsGrid.buttonOf?_eq_some_iff {layout : Layout} (hg : layout.IsGrid) {action : Action}
    {b : Button} : layout.buttonOf? action = some b ↔ b.Belongs layout action := by
  cases b with
  | key index => cases action <;> simp [buttonOf?, Button.Belongs, hg.positionOf?_eq_some_iff]
  | control c =>
    cases c <;> cases action <;> simp [buttonOf?, Button.Belongs, Action.ofControl]

namespace Terminal.App

/-! ## Moves -/

/-- What can happen to an app. -/
inductive Move where
  | press (label : String)
  | click (b : Button)
  | apply (action : Action)
  /-- What a user asks for at the keyboard, if that is anything. -/
  | command (c : Option Command)
  | leave
  | reset
  deriving DecidableEq, Repr

/-- An app with the flag that says whether something ran. -/
def answered (r : App × Bool) : App × Option Bool := (r.1, some r.2)

/-- The app after a move, and its flag. Leaving and resetting have none. -/
def move (app : App) : Move → App × Option Bool
  | .press label => answered (app.press label)
  | .click b => answered (app.click b)
  | .apply action => answered (app.apply action)
  | .command (some c) => answered (app.command c)
  | .command none => answered (app, false)
  | .leave => (app.leave, none)
  | .reset => (app.reset, none)

/-- The app after a list of moves. -/
def play (app : App) (moves : List Move) : App := moves.foldl (fun app m => (app.move m).1) app

/-- An app at its start. -/
def fresh (layout : Layout) (wired : Controls) : App := { layout := layout, controls := wired }

/-! ## What moves ask for -/

namespace Move

/-- What a label asks for. -/
def asksFor? (layout : Layout) (label : String) : Option Action :=
  if label ∈ layout.labels then some (.append label) else none

/-- What a move asks for. -/
def asks? (layout : Layout) : Move → Option Action
  | .press label => asksFor? layout label
  | .click (.key index) => layout.labels[index]?.map .append
  | .click (.control control) => some (.ofControl control)
  | .apply action => some action
  | .command (some (.insert c)) => asksFor? layout c.toString
  | .command (some .backspace) => some .backspace
  | .command (some .clear) => some .clear
  | _ => none

/-- The action that a move runs behind the controls. -/
def runs? (layout : Layout) (wired : Controls) (m : Move) : Option Action :=
  (m.asks? layout).filter wired.permits

/-- Whether a move makes the user leave: leaving itself, the command to quit, and a typed `q` that is
no label. -/
def quits (layout : Layout) : Move → Bool
  | .leave => true
  | .command (some .quit) => true
  | .command (some (.insert c)) => c = 'q' ∧ "q" ∉ layout.labels
  | _ => false

end Move

/-- The actions that moves have run since the last reset. -/
def ran (layout : Layout) (wired : Controls) (moves : List Move) : List Action :=
  (moves.rtakeWhile (· ≠ .reset)).filterMap (Move.runs? layout wired)

section

variable (layout : Layout) (wired : Controls) (moves : List Move)

theorem ran_concat_reset : ran layout wired (moves ++ [.reset]) = [] := by
  rw [ran, List.rtakeWhile_concat_neg _ _ _ (by simp)]
  rfl

theorem ran_concat {m : Move} (hm : m ≠ .reset) : ran layout wired (moves ++ [m]) =
    ran layout wired moves ++ (m.runs? layout wired).toList := by
  rw [ran, List.rtakeWhile_concat_pos _ _ _ (by simpa using hm), List.filterMap_append, ran]
  cases h : m.runs? layout wired <;> simp [h]

end

/-! ## One move -/

/-- A move other than a reset leaves, or does what it asks for. -/
theorem move_cases (app : App) {m : Move} (hm : m ≠ .reset) :
    (m.quits app.layout = true ∧ m.asks? app.layout = none ∧ (app.move m).1 = app.leave ∧
      (app.move m).2 ≠ some true) ∨
    (m.quits app.layout = false ∧ app.move m = answered (app.applyAny (m.asks? app.layout))) := by
  cases m with
  | press label =>
    refine .inr ⟨rfl, ?_⟩
    rw [move, press, Layout.map_action_findLabel?]
    rfl
  | click b =>
    refine .inr ⟨rfl, ?_⟩
    cases b with
    | key index =>
      rw [move, click, Layout.actionOf?_key]
      rfl
    | control c => rfl
  | apply action => exact .inr ⟨rfl, rfl⟩
  | command c =>
    rcases c with _ | _ | _
    case none => exact .inr ⟨rfl, rfl⟩
    case some.backspace => exact .inr ⟨rfl, rfl⟩
    case some.clear => exact .inr ⟨rfl, rfl⟩
    case some.quit => exact .inl ⟨rfl, rfl, rfl, by simp [move, answered, command]⟩
    case some.insert c =>
      have htype := type_eq_ite app c
      rw [Layout.map_action_findLabel?] at htype
      by_cases hq : c = 'q' ∧ "q" ∉ app.layout.labels
      · rw [if_pos hq] at htype
        -- a `q` that leaves is no label, so that it asks for nothing
        obtain ⟨rfl, hnot⟩ := hq
        refine .inl ⟨decide_eq_true ⟨rfl, hnot⟩, if_neg hnot, ?_, ?_⟩
        · rw [move, command, htype]
          rfl
        · rw [move, command, htype]
          simp [answered]
      · rw [if_neg hq] at htype
        refine .inr ⟨decide_eq_false hq, ?_⟩
        rw [move, command, htype]
        rfl
  | leave => exact .inl ⟨rfl, rfl, rfl, by simp [move]⟩
  | reset => exact absurd rfl hm

/-- An action that there may be runs if the controls permit it. -/
theorem applyAny_eq (app : App) (asked : Option Action) :
    app.applyAny asked = match asked.filter app.controls.permits with
      | some action => ({ app with
          amount := app.amount.apply action, pressed := app.layout.buttonOf? action }, true)
      | none => (app, false) := by
  cases asked with
  | none => rfl
  | some action =>
    cases hp : app.controls.permits action with
    | true =>
      have hrun : app.amount.run? app.controls action = some (app.amount.apply action) := by
        simp [Amount.run?, hp]
      simp [applyAny, apply_of_run?_eq_some hrun, Option.filter, hp]
    | false => simp [applyAny, apply_of_not_permits hp, Option.filter, hp]

/-- A move that runs an action changes the amount by it, and marks its button. -/
theorem move_of_runs?_eq_some {app : App} {m : Move} {action : Action}
    (h : m.runs? app.layout app.controls = some action) : app.move m =
      ({ app with amount := app.amount.apply action, pressed := app.layout.buttonOf? action },
        some true) ∧ m ≠ .reset ∧ m.quits app.layout = false := by
  have hm : m ≠ .reset := by
    rintro rfl
    exact nomatch h
  rw [Move.runs?] at h
  rcases move_cases app hm with ⟨-, hnone, -⟩ | ⟨hquits, hmove⟩
  · rw [hnone] at h
    exact nomatch h
  · rw [applyAny_eq, h] at hmove
    exact ⟨hmove, hm, hquits⟩

/-- A move that runs no action, and is no reset, changes nothing but whether the user leaves. -/
theorem move_of_runs?_eq_none {app : App} {m : Move} (hm : m ≠ .reset)
    (h : m.runs? app.layout app.controls = none) : (app.move m).2 ≠ some true ∧
      (app.move m).1 = { app with leaving := app.leaving || m.quits app.layout } := by
  rw [Move.runs?] at h
  rcases move_cases app hm with ⟨hquits, -, hleave, hflag⟩ | ⟨hquits, hmove⟩
  · rw [hleave, hquits, Bool.or_true]
    exact ⟨hflag, rfl⟩
  · rw [applyAny_eq, h] at hmove
    rw [hmove, hquits, Bool.or_false]
    exact ⟨by simp [answered], rfl⟩

/-- A move runs something exactly if it says so. -/
theorem move_snd_eq_some_true_iff (app : App) (m : Move) :
    (app.move m).2 = some true ↔ (m.runs? app.layout app.controls).isSome = true := by
  by_cases hm : m = .reset
  · subst hm
    exact ⟨nofun, nofun⟩
  cases h : m.runs? app.layout app.controls with
  | some action => simp [(move_of_runs?_eq_some h).1]
  | none => simp [(move_of_runs?_eq_none hm h).1]

/-- A move that says that nothing ran leaves the amount and the marked button. -/
theorem unchanged_of_refused {app : App} {m : Move} (h : (app.move m).2 = some false) :
    (app.move m).1.amount = app.amount ∧ (app.move m).1.pressed = app.pressed := by
  have hm : m ≠ .reset := by
    rintro rfl
    exact nomatch h
  cases hr : m.runs? app.layout app.controls with
  | some action =>
    rw [(move_of_runs?_eq_some hr).1] at h
    exact nomatch h
  | none =>
    rw [(move_of_runs?_eq_none hm hr).2]
    exact ⟨rfl, rfl⟩

/-- The user leaves by a move that makes them leave, and never comes back. -/
theorem leaving_move (app : App) (m : Move) :
    (app.move m).1.leaving = (app.leaving || m.quits app.layout) := by
  by_cases hm : m = .reset
  · subst hm
    exact (Bool.or_false _).symm
  cases hr : m.runs? app.layout app.controls with
  | some action =>
    obtain ⟨hmove, -, hquits⟩ := move_of_runs?_eq_some hr
    rw [hmove, hquits, Bool.or_false]
  | none => rw [(move_of_runs?_eq_none hm hr).2]

/-! ## Lists of moves -/

/-- An app in the state to which moves lead from the start. -/
structure Accords (layout : Layout) (wired : Controls) (moves : List Move) (app : App) : Prop where
  layout_eq : app.layout = layout
  controls_eq : app.controls = wired
  /-- The amount is what has been run since the last reset. -/
  entered_eq : app.amount.text.toList = entered wired (ran layout wired moves)
  /-- The marked button is that of what ran last. -/
  pressed_eq : app.pressed = (ran layout wired moves).getLast?.bind layout.buttonOf?
  leaving_eq : app.leaving = moves.any (Move.quits layout)

namespace Accords

variable {layout : Layout} {wired : Controls} {moves : List Move} {app : App}

theorem fresh (layout : Layout) (wired : Controls) :
    Accords layout wired [] (App.fresh layout wired) :=
  ⟨rfl, rfl, Amount.toList_empty, rfl, rfl⟩

/-- One move leads to the state told by one move more. -/
theorem move (h : Accords layout wired moves app) (m : Move) :
    Accords layout wired (moves ++ [m]) (app.move m).1 := by
  have hleaving : (app.move m).1.leaving = (moves ++ [m]).any (Move.quits layout) := by
    rw [leaving_move, h.leaving_eq, h.layout_eq, List.any_append, List.any_cons, List.any_nil,
      Bool.or_false]
  by_cases hreset : m = .reset
  · subst hreset
    -- behind a reset no action counts
    have hran := ran_concat_reset layout wired moves
    refine ⟨h.layout_eq, h.controls_eq, ?_, ?_, hleaving⟩
    · rw [hran]
      exact Amount.toList_empty
    · rw [hran]
      rfl
  -- any other move adds the action that it runs, if it runs one
  have hran := ran_concat layout wired moves hreset
  have hruns : m.runs? app.layout app.controls = m.runs? layout wired := by
    rw [h.layout_eq, h.controls_eq]
  cases hr : m.runs? layout wired with
  | some action =>
    have hmove := (move_of_runs?_eq_some (hruns.trans hr)).1
    have hpermits : wired.permits action = true := (Option.filter_eq_some_iff.mp hr).2
    rw [hr, Option.toList_some] at hran
    rw [hmove] at hleaving ⊢
    refine ⟨h.layout_eq, h.controls_eq, ?_, ?_, hleaving⟩
    · calc (app.amount.apply action).text.toList
          = enter wired app.amount.text.toList action := Amount.toList_apply hpermits app.amount
        _ = enter wired (entered wired (ran layout wired moves)) action := by rw [h.entered_eq]
        _ = entered wired (ran layout wired (moves ++ [m])) := by
          rw [hran, entered, entered, List.foldl_concat]
    · rw [hran, List.getLast?_concat, ← h.layout_eq]
      rfl
  | none =>
    have hmove := (move_of_runs?_eq_none hreset (hruns.trans hr)).2
    rw [hr, Option.toList_none, List.append_nil] at hran
    rw [hmove] at hleaving ⊢
    refine ⟨h.layout_eq, h.controls_eq, ?_, ?_, hleaving⟩
    · rw [hran, h.entered_eq]
    · rw [hran, h.pressed_eq]

end Accords

/-- The state of an app is told by all moves since its start. -/
theorem play_accords (layout : Layout) (wired : Controls) (moves : List Move) :
    Accords layout wired moves ((fresh layout wired).play moves) := by
  induction moves using List.reverseRecOn with
  | nil => exact .fresh layout wired
  | append_singleton moves m ih =>
    rw [play, List.foldl_concat]
    exact ih.move m

/-- Only actions that the controls permit are run. -/
theorem permits_of_mem_ran {layout : Layout} {wired : Controls} {moves : List Move}
    {action : Action} (h : action ∈ ran layout wired moves) : wired.permits action = true := by
  obtain ⟨m, -, hm⟩ := List.mem_filterMap.mp h
  exact (Option.filter_eq_some_iff.mp hm).2

/-- **The state of an app is told by its moves.** For every layout that can be read, all controls
and every list of moves: layout and controls stay; the amount is what the actions run since the last
reset have entered; the marked button is the one of the last of these actions, so that it is a key
of the layout or a control that is wired; the user leaves exactly if a move made them leave. Of one
move more, the flag says whether it runs an action; if it says no, amount and marked button stay;
and who leaves goes on leaving. -/
theorem state_told_by_moves {rows : List (List String)} {layout : Layout}
    (hl : Layout.ofRows rows = .ok layout) (wired : Controls) (moves : List Move) :
    let app := (fresh layout wired).play moves
    app.layout = layout ∧ app.controls = wired ∧
      app.amount.text.toList = entered wired (ran layout wired moves) ∧
      (layout.labels.Nodup ∧ ∀ b, app.pressed = some b ↔
        ∃ action, (ran layout wired moves).getLast? = some action ∧ b.Belongs layout action) ∧
      (∀ index, app.pressed = some (.key index) → index < layout.keyCount) ∧
      (∀ control, app.pressed = some (.control control) →
        wired.permits (.ofControl control) = true) ∧
      app.leaving = moves.any (Move.quits layout) ∧
      ∀ m : Move,
        ((app.move m).2 = some true ↔ (m.runs? layout wired).isSome = true) ∧
        ((app.move m).2 = some false →
          (app.move m).1.amount = app.amount ∧ (app.move m).1.pressed = app.pressed) ∧
        (app.move m).1.leaving = (app.leaving || m.quits layout) := by
  have hg := Layout.isGrid_of_ofRows hl
  have h := play_accords layout wired moves
  have hpressed : ∀ b, ((fresh layout wired).play moves).pressed = some b ↔
      ∃ action, (ran layout wired moves).getLast? = some action ∧ b.Belongs layout action := by
    intro b
    rw [h.pressed_eq, Option.bind_eq_some_iff]
    simp only [hg.buttonOf?_eq_some_iff]
  refine ⟨h.layout_eq, h.controls_eq, h.entered_eq, ⟨hg.nodup, hpressed⟩, ?key, ?control,
    h.leaving_eq, ?next⟩
  case key =>
    intro index hi
    obtain ⟨action, -, hb⟩ := (hpressed _).mp hi
    cases action with
    | append label => simpa [Layout.keyCount, Layout.labels] using
        (List.getElem?_eq_some_iff.mp hb).1
    | clear => exact hb.elim
    | backspace => exact hb.elim
  case control =>
    intro control hc
    obtain ⟨action, hlast, hb⟩ := (hpressed _).mp hc
    obtain rfl : action = .ofControl control := hb
    exact permits_of_mem_ran (List.mem_of_getLast? hlast)
  case next =>
    intro m
    have hflag := move_snd_eq_some_true_iff ((fresh layout wired).play moves) m
    have hleaving := leaving_move ((fresh layout wired).play moves) m
    rw [h.layout_eq, h.controls_eq] at hflag
    rw [h.layout_eq] at hleaving
    exact ⟨hflag, unchanged_of_refused, hleaving⟩

/-- A layout with a label that would else leave. -/
def quitterLayout : Layout := ⟨Layout.gridKeys 0 [["q", "<"]], 1, 2⟩

/-- An entry that a reset takes back, a typed label, a key that there is not, a control that is not
wired, a text that is no label, and the wish to leave. -/
def quitterMoves : List Move :=
  [.press "<", .reset, .command (some (.insert 'q')), .apply (.append "7"), .click (.key 0),
    .click (.key 2), .click (.control .backspace), .press "clear", .leave, .command none]

theorem state_told_by_moves_quitter :
    let app := (fresh quitterLayout ⟨true, false⟩).play quitterMoves
    app.amount.text.toList = ['q', '7', 'q'] ∧ app.pressed = some (.key 0) ∧ app.leaving = true ∧
      (app.move (.apply .backspace)).2 = some false ∧
      (app.move (.apply .backspace)).1.pressed = some (.key 0) := by
  have hl : Layout.ofRows [["q", "<"]] = .ok quitterLayout := by rfl
  obtain ⟨-, -, hentered, ⟨-, hpressed⟩, -, -, hleaving, hnext⟩ :=
    state_told_by_moves hl ⟨true, false⟩ quitterMoves
  have hmarked := (hpressed (.key 0)).mpr ⟨.append "q", rfl, rfl⟩
  have hrefused := (hnext (.apply .backspace)).2.1 rfl
  exact ⟨hentered, hmarked, hleaving, rfl, hrefused.2.trans hmarked⟩

end Terminal.App

end AmountPad
