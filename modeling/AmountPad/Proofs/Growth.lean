import Mathlib
import AmountPad.Proofs.Page.Mirror
import AmountPad.Proofs.Replay
import AmountPad.Proofs.Terminal.Moves

/-!
# Without controls an amount only grows

Keys write behind what is there; only the two controls take something away. So a pad whose controls
are not wired never forgets anything: what it showed once stays in front of all that it shows later.
This holds whichever way a user tries to reach a control: by its button, by a keyboard key that
names it, by an identifier that it shares with a key, or by a token.

Main results:

* `grows_foldl`, `isPrefix_of_steps` — steps that each forget nothing forget nothing together;
* `Page.Bound.move_grows`, `Terminal.App.move_grows`, `isPrefix_enter` — one step on a page, on a
  terminal, and of a list of actions;
* `amounts_only_grow` — every run of a pad without controls.
-/

namespace AmountPad

open List (IsPrefix)

/-! ## Runs of steps -/

section

variable {σ μ : Type} (step : σ → μ → σ) (chars : σ → List Char) (Inv : σ → Prop)
  (Allowed : μ → Prop)

/-- Where every step keeps an invariant and what was entered before it, so does a run of steps. -/
theorem grows_foldl
    (hstep : ∀ s m, Inv s → Allowed m → Inv (step s m) ∧ chars s <+: chars (step s m))
    {s : σ} (hs : Inv s) {moves : List μ} (hm : ∀ m ∈ moves, Allowed m) :
    Inv (moves.foldl step s) ∧ chars s <+: chars (moves.foldl step s) := by
  -- the run of the other moves starts from the state behind the first
  induction moves generalizing s with
  | nil => exact ⟨hs, List.prefix_rfl⟩
  | cons m rest ih =>
    obtain ⟨hinv, hgrow⟩ := hstep s m hs (hm m List.mem_cons_self)
    obtain ⟨hinv', hgrow'⟩ := ih hinv fun m' hm' => hm m' (List.mem_cons_of_mem _ hm')
    exact ⟨hinv', hgrow.trans hgrow'⟩

/-- What was there at any time of a run is in front of what is there at its end. -/
theorem isPrefix_of_steps
    (hstep : ∀ s m, Inv s → Allowed m → Inv (step s m) ∧ chars s <+: chars (step s m))
    {s : σ} (hs : Inv s) {before between : List μ} (hm : ∀ m ∈ before ++ between, Allowed m) :
    chars (before.foldl step s) <+: chars ((before ++ between).foldl step s) := by
  obtain ⟨hinv, -⟩ := grows_foldl step chars Inv Allowed hstep hs fun m hmem =>
    hm m (List.mem_append_left _ hmem)
  rw [List.foldl_append]
  exact (grows_foldl step chars Inv Allowed hstep hinv fun m hmem =>
    hm m (List.mem_append_right _ hmem)).2

end

/-- Without controls an action enters behind what was entered before it. -/
theorem isPrefix_enter (chars : List Char) (action : Action) : chars <+: enter .none chars action := by
  cases action with
  | append label => exact List.prefix_append chars label.toList
  | clear => exact List.prefix_rfl
  | backspace => exact List.prefix_rfl

/-! ## Pads on pages -/

namespace Page.Bound

/-- A pad for which no control was asked, or whose page has none, is bound without controls. -/
theorem controls_of_attach {d : Document} {s : Settings} {b : Bound} (hb : attach d s = .ok b)
    (hs : s.policy = .disabled ∨ s.policy = .optional ∧
      d.byId? s.markup.clearId = none ∧ d.byId? s.markup.backspaceId = none) :
    b.controls = .none := by
  obtain ⟨view, hv, rfl⟩ := attach_eq_ok_iff.mp hb
  obtain ⟨-, hfound, -⟩ := View.resolve_eq_ok_iff.mp hv
  -- either way, neither control was found
  have hnone : View.resolveControls d s = .ok (none, none) := by
    rcases hs with hp | ⟨hp, hclear, hback⟩
    · simp [View.resolveControls, hp]
    · simp [View.resolveControls, hp, hclear, hback]
  rw [hnone, Except.ok.injEq, Prod.mk.injEq] at hfound
  show View.controls view = .none
  rw [View.controls, ← hfound.1, ← hfound.2]
  rfl

/-- An action on a pad without controls can only add to its amount. -/
theorem run_grows {b : Bound} (hb : b.controls = .none) (action : Action) :
    (b.run action).1.controls = .none ∧
      b.pad.amount.text.toList <+: (b.run action).1.pad.amount.text.toList := by
  have hchars := Amount.toList_run b.pad.amount .none action
  rw [Amount.run, ← hb] at hchars
  unfold run
  cases hr : b.pad.amount.run? b.controls action with
  | none => exact ⟨hb, List.prefix_rfl⟩
  | some amount =>
    rw [hr, Option.getD_some, hb] at hchars
    refine ⟨hb, ?_⟩
    show b.pad.amount.text.toList <+: amount.text.toList
    rw [hchars]
    exact isPrefix_enter _ action

theorem handle_grows {b : Bound} (hb : b.controls = .none) (event : Event) :
    (b.handle event).1.controls = .none ∧
      b.pad.amount.text.toList <+: (b.handle event).1.pad.amount.text.toList := by
  unfold handle
  cases b.actionFor? event with
  | none => exact ⟨hb, List.prefix_rfl⟩
  | some action => exact run_grows (b := { b with document := b.document.record event }) hb action

/-- Without controls, one move takes nothing away, and binds no control. -/
theorem move_grows {b : Bound} (hb : b.controls = .none) {m : Move} (hm : m ≠ .reset) :
    (b.move m).controls = .none ∧
      b.pad.amount.text.toList <+: (b.move m).pad.amount.text.toList := by
  rcases move_cases b m with hreset | ⟨change, rfl⟩ | ⟨event, hevent⟩ | hsame
  · exact absurd hreset hm
  · exact ⟨hb, List.prefix_rfl⟩
  · rw [hevent]
    exact handle_grows hb event
  · rw [hsame]
    exact ⟨hb, List.prefix_rfl⟩

end Page.Bound

/-! ## Pads on terminals -/

namespace Terminal.App

/-- Without controls, one move takes nothing away, and wires no control. -/
theorem move_grows {app : App} (happ : app.controls = .none) {m : Move} (hm : m ≠ .reset) :
    (app.move m).1.controls = .none ∧
      app.amount.text.toList <+: (app.move m).1.amount.text.toList := by
  cases hr : m.runs? app.layout app.controls with
  | none =>
    obtain ⟨-, hmove⟩ := move_of_runs?_eq_none hm hr
    rw [hmove]
    exact ⟨happ, List.prefix_rfl⟩
  | some action =>
    obtain ⟨hmove, -, -⟩ := move_of_runs?_eq_some hr
    -- what runs was permitted, and without controls that is an append
    have hpermits : app.controls.permits action = true := (Option.filter_eq_some_iff.mp hr).2
    rw [happ] at hpermits
    rw [hmove]
    refine ⟨happ, ?_⟩
    show app.amount.text.toList <+: (app.amount.apply action).text.toList
    rw [Amount.toList_apply hpermits]
    exact isPrefix_enter _ action

end Terminal.App

/-! ## Replays -/

namespace Replay

/-- Without controls, the steps that tell of tokens show more and more. -/
theorem Recounts.contents_grow {labels tokens : List String} {found : List Step}
    (h : Recounts labels .none tokens found) :
    (found.map Step.content).Pairwise fun earlier later => earlier.toList <+: later.toList := by
  rw [List.pairwise_map, List.pairwise_iff_getElem]
  intro i j hi hj hij
  rw [h.content_eq i _ (List.getElem?_eq_getElem hi), h.content_eq j _ (List.getElem?_eq_getElem hj)]
  -- the later step has run the actions of the earlier one, and then more
  obtain ⟨more, hmore⟩ : (found.take (i + 1)).map Step.action <+:
      (found.take (j + 1)).map Step.action :=
    (List.take_prefix_take_left (by omega)).map Step.action
  rw [← hmore]
  exact isPrefix_of_steps (enter .none) id (fun _ => True) (fun _ => True)
    (fun chars action _ _ => ⟨trivial, isPrefix_enter chars action⟩) trivial fun _ _ => trivial

/-- The contents of a replay over settings without controls grow from step to step. -/
theorem contents_grow {s : Settings} (hp : s.policy = .disabled) {tokens : List String}
    {found : List Step} (h : ofSettings s tokens = .ok found) :
    (found.map Step.content).Pairwise fun earlier later => earlier.toList <+: later.toList := by
  cases hl : Layout.ofRows s.rows with
  | error flaw =>
    rw [ofSettings_of_flaw hl] at h
    exact nomatch h
  | ok layout =>
    have hrecounts := recounts_of_ofSettings hl h
    rw [hp] at hrecounts
    exact hrecounts.contents_grow

end Replay

/-! ## All of them -/

open Page Terminal in
/-- **Without controls an amount only grows.** A pad that is bound to any document, with controls
disabled or with optional ones of which the document has none, goes through any events and changes
of the document; an app over any layout goes through any moves; and a replay runs any tokens. As
long as nobody resets the pad, what it held at any time is a prefix of what it holds later. -/
theorem amounts_only_grow :
    (∀ (d : Document) (s : Settings) (b : Bound), Bound.attach d s = .ok b →
      (s.policy = .disabled ∨ s.policy = .optional ∧
        d.byId? s.markup.clearId = none ∧ d.byId? s.markup.backspaceId = none) →
      ∀ before between : List Bound.Move, (∀ m ∈ before ++ between, m ≠ .reset) →
        (b.play before).pad.amount.text.toList <+:
          (b.play (before ++ between)).pad.amount.text.toList) ∧
    (∀ app : App, app.controls = .none →
      ∀ before between : List App.Move, (∀ m ∈ before ++ between, m ≠ .reset) →
        (app.play before).amount.text.toList <+:
          (app.play (before ++ between)).amount.text.toList) ∧
    ∀ (s : Settings) (tokens : List String) (found : List Replay.Step), s.policy = .disabled →
      Replay.ofSettings s tokens = .ok found →
      (found.map Replay.Step.content).Pairwise fun earlier later =>
        earlier.toList <+: later.toList := by
  refine ⟨?page, ?terminal, ?replay⟩
  case page =>
    intro d s b hb hs before between hm
    exact isPrefix_of_steps Bound.move (fun b => b.pad.amount.text.toList)
      (fun b => b.controls = .none) (· ≠ .reset) (fun b m hb hm => Bound.move_grows hb hm)
      (Bound.controls_of_attach hb hs) hm
  case terminal =>
    intro app happ before between hm
    exact isPrefix_of_steps (fun app m => (App.move app m).1) (fun app => app.amount.text.toList)
      (fun app => app.controls = .none) (· ≠ .reset) (fun app m happ hm => App.move_grows happ hm)
      happ hm
  case replay =>
    intro s tokens found hp h
    exact Replay.contents_grow hp h

/-- A pad on a page where clear is a key, bound with optional controls of other names. -/
def unwiredPad : Page.Bound := ⟨Page.Bound.crowdedPage, ⟨⟨[1, 2], 2, none, none⟩, .empty⟩⟩

/-- The settings of that pad. -/
def unwiredSettings : Settings := { markup := { clearId := "c", backspaceId := "" } }

open Page Terminal in
theorem amounts_only_grow_unwired :
    (Bound.attach Bound.crowdedPage unwiredSettings = .ok unwiredPad ∧
      (unwiredPad.play [.click 2]).pad.amount.text.toList <+:
        (unwiredPad.play ([.click 2] ++ [.pressKey "Escape", .clickId "clear", .click 2])
          ).pad.amount.text.toList) ∧
    (({ controls := .none } : App).play [.press "00"]).amount.text.toList <+:
      (({ controls := .none } : App).play ([.press "00"] ++
        [.click (.control .clear), .command (some .backspace), .press "1"])).amount.text.toList ∧
    ∃ found, Replay.ofSettings { policy := .disabled } ["1", "c", "0"] = .ok found ∧
      (found.map Replay.Step.content).Pairwise fun earlier later =>
        earlier.toList <+: later.toList := by
  obtain ⟨hpage, hterminal, hreplay⟩ := amounts_only_grow
  have hb : Bound.attach Bound.crowdedPage unwiredSettings = .ok unwiredPad := by rfl
  have hs : unwiredSettings.policy = .disabled ∨ unwiredSettings.policy = .optional ∧
      Bound.crowdedPage.byId? unwiredSettings.markup.clearId = none ∧
      Bound.crowdedPage.byId? unwiredSettings.markup.backspaceId = none := by
    exact .inr ⟨rfl, by rfl, by rfl⟩
  refine ⟨⟨hb, hpage _ _ _ hb hs [.click 2] _ (by simp)⟩,
    hterminal { controls := .none } rfl [.press "00"] _ (by simp), ?_⟩
  have hl : Layout.ofRows ({ policy := .disabled } : Settings).rows = .ok .satoshi := by rfl
  obtain ⟨found, hfound⟩ :
      ∃ found, Replay.ofSettings { policy := .disabled } ["1", "c", "0"] = .ok found := by
    rw [Replay.exists_ofSettings_eq_ok_iff hl]
    decide +kernel
  exact ⟨found, hfound, hreplay _ _ found rfl hfound⟩

end AmountPad
