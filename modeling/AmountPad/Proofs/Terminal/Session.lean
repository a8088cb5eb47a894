import Mathlib
import AmountPad.Program.Run
import AmountPad.Proofs.Terminal.App
import AmountPad.Terminal.Report

/-!
# What a session computes

A session reads what the terminal reports until a report ends it. Which report that is, and what the
reports before it have entered, can be said of the reports alone, without an app: a key goes by its
code, by whether control is held and by whether it comes up; a click goes by the screen as it is at
that moment.

* `Report.Quits` — whether a report ends a session;
* `Moment.asks?` — what a report asks for.

Main results:

* `App.event_eq` — an app leaves on a report that quits, and runs what any other report asks for;
* `App.Holds.events` — a session takes the reports up to the first that quits, and holds what those
  before it entered;
* `Program.interact_returns_entered` — so does the program, and it returns that amount.
-/

namespace AmountPad

namespace Terminal

/-! ## What a report asks for -/

/-- A report ends a session on a layout if it is a `q` or a `c` with control, or a `q` without it
unless that is a label. A key that comes up never ends it. -/
def Report.Quits (layout : Layout) : Report → Prop
  | .key code modifiers kind =>
    kind ≠ .release ∧
      if .control ∈ modifiers then code = .char 'c' ∨ code = .char 'q'
      else code = .char 'q' ∧ "q" ∉ layout.labels
  | _ => False

instance (layout : Layout) (report : Report) : Decidable (report.Quits layout) :=
  match report with
  | .key _ _ _ => inferInstanceAs (Decidable (_ ∧ _))
  | .mouse _ _ _ => inferInstanceAs (Decidable False)
  | .resized _ _ => inferInstanceAs (Decidable False)
  | .other => inferInstanceAs (Decidable False)

section

variable {layout : Layout} {code : KeyCode} {modifiers : List Modifier} {kind : KeyKind}

/-- With control held, `c` and `q` end a session. -/
theorem Report.quits_key_control (hk : kind ≠ .release) (hc : .control ∈ modifiers) :
    (Report.key code modifiers kind).Quits layout ↔ code = .char 'c' ∨ code = .char 'q' := by
  simp [Quits, hk, hc]

/-- Without control, `q` ends a session if it is no label. -/
theorem Report.quits_key_plain (hk : kind ≠ .release) (hc : .control ∉ modifiers) :
    (Report.key code modifiers kind).Quits layout ↔
      code = .char 'q' ∧ "q" ∉ layout.labels := by
  simp [Quits, hk, hc]

end

/-- What a key without control asks for. -/
def KeyCode.asks? (layout : Layout) : KeyCode → Option Action
  | .char c => if c.toString ∈ layout.labels then some (.append c.toString) else none
  | .backspace => some .backspace
  | .escape => some .clear
  | .delete => some .clear
  | .other => none

/-- What a report asks for at the time it is read. A press of the left button of a mouse asks for
what the button of the pad asks for that is under it. -/
def Moment.asks? (layout : Layout) (wired : Controls) (m : Moment) : Option Action :=
  match m.report with
  | .key code modifiers kind =>
    if kind = .release then none
    else if .control ∈ modifiers then if code = .char 'u' then some .clear else none
    else code.asks? layout
  | .mouse (.down .left) x y =>
    (hitTest layout wired (keypadArea m.screen) x y).bind layout.actionOf?
  | _ => none

/-! ## One report -/

/-- With control held, three letters are commands. -/
theorem Command.ofControlLetter?_eq (c : Char) : ofControlLetter? c =
    if c = 'c' ∨ c = 'q' then some .quit else if c = 'u' then some .clear else none := by
  unfold ofControlLetter?
  split
  · rfl
  · rfl
  · rfl
  · next hc hq hu =>
    have hquit : ¬(c = 'c' ∨ c = 'q') := fun h => h.elim hc hq
    rw [if_neg hquit, if_neg hu]

namespace App

/-- A key that is pressed while control is held. -/
theorem keyPress_control (app : App) (code : KeyCode) {kind : KeyKind} (hk : kind ≠ .release) :
    (app.keyPress ⟨code, true, kind⟩).1 =
      if code = .char 'c' ∨ code = .char 'q' then app.leave
      else (app.applyAny (if code = .char 'u' then some .clear else none)).1 := by
  rw [keyPress, KeyPress.command?, if_neg hk]
  cases code with
  | char c =>
    dsimp only
    rw [Command.ofControlLetter?_eq]
    simp only [KeyCode.char.injEq]
    by_cases hquit : c = 'c' ∨ c = 'q'
    · rw [if_pos hquit, if_pos hquit]
      rfl
    · by_cases hu : c = 'u'
      · rw [if_neg hquit, if_neg hquit, if_pos hu, if_pos hu]
        rfl
      · rw [if_neg hquit, if_neg hquit, if_neg hu, if_neg hu]
        rfl
  | backspace => rfl
  | escape => rfl
  | delete => rfl
  | other => rfl

/-- A character that is typed goes to the key with that label; only where there is none, `q` has
another meaning. -/
theorem type_eq (app : App) (c : Char) : (app.type c).1 =
    if c = 'q' ∧ "q" ∉ app.layout.labels then app.leave
    else (app.applyAny (KeyCode.asks? app.layout (.char c))).1 := by
  rw [type_eq_ite, Layout.map_action_findLabel?, KeyCode.asks?]
  split <;> rfl

/-- A key that is pressed while control is not held. -/
theorem keyPress_plain (app : App) (code : KeyCode) {kind : KeyKind} (hk : kind ≠ .release) :
    (app.keyPress ⟨code, false, kind⟩).1 =
      if code = .char 'q' ∧ "q" ∉ app.layout.labels then app.leave
      else (app.applyAny (code.asks? app.layout)).1 := by
  rw [keyPress, KeyPress.command?, if_neg hk]
  cases code with
  | char c =>
    simp only [KeyCode.char.injEq]
    exact type_eq app c
  | backspace => rfl
  | escape => rfl
  | delete => rfl
  | other => rfl

/-- A press of the left button of a mouse runs what it asks for. -/
theorem event_leftPress (app : App) (screen : Rect) (x y : Nat) :
    app.event screen (.leftPress x y) = (app.applyAny
      ((hitTest app.layout app.controls (keypadArea screen) x y).bind app.layout.actionOf?)).1 := by
  rw [event, buttonUnder?]
  cases hitTest app.layout app.controls (keypadArea screen) x y with
  | none => rfl
  | some b => rfl

/-- An app leaves on a report that quits, and runs what any other report asks for. -/
theorem event_eq (app : App) (m : Moment) : app.event m.screen m.report.event =
    if m.report.Quits app.layout then app.leave
    else (app.applyAny (m.asks? app.layout app.controls)).1 := by
  obtain ⟨report, width, height⟩ := m
  cases report with
  | key code modifiers kind =>
    change (app.keyPress ⟨code, Modifier.control ∈ modifiers, kind⟩).1 = _
    rw [Moment.asks?]
    dsimp only
    -- a key that comes up is passed over, whatever it is
    by_cases hk : kind = .release
    · have hstay : ¬(Report.key code modifiers kind).Quits app.layout := fun h => h.1 hk
      rw [keyPress, KeyPress.command?, if_pos hk, if_neg hstay, if_pos hk]
      rfl
    rw [if_neg hk]
    by_cases hc : .control ∈ modifiers
    · rw [decide_eq_true hc, keyPress_control app code hk, if_pos hc,
        if_congr (Report.quits_key_control hk hc) rfl rfl]
    · rw [decide_eq_false hc, keyPress_plain app code hk, if_neg hc,
        if_congr (Report.quits_key_plain hk hc) rfl rfl]
  | mouse kind x y =>
    refine Eq.trans ?_ (if_neg (id : ¬False)).symm
    cases kind with
    | down button =>
      cases button with
      | left => exact event_leftPress app _ x y
      | middle => rfl
      | right => rfl
    | up button => rfl
    | drag button => rfl
    | moved => rfl
    | scrolled => rfl
  | resized width' height' => rfl
  | other => rfl

/-! ## A session -/

/-- An app that stays takes the first report and goes on with the others. -/
theorem events_cons {app : App} (h : app.leaving = false) (screen : Rect) (e : TerminalEvent)
    (rest : List (Rect × TerminalEvent)) : app.events ((screen, e) :: rest) =
      (((app.event screen e).events rest).1, ((app.event screen e).events rest).2 + 1) := by
  rw [events, if_neg (by rw [h]; exact Bool.false_ne_true)]

/-- An app that leaves takes no report any more. -/
theorem events_of_leaving {app : App} (h : app.leaving = true)
    (es : List (Rect × TerminalEvent)) : app.events es = (app, 0) := by
  cases es with
  | nil => rfl
  | cons e rest => rw [events, if_pos h]

namespace Holds

variable {layout : Layout} {wired : Controls} {chars : List Char} {app : App}

/-- A report that does not quit enters what it asks for. -/
theorem event (h : Holds layout wired chars app) {m : Moment} (hm : ¬m.report.Quits layout) :
    Holds layout wired (((m.asks? layout wired).toList).foldl (enter wired) chars)
      (app.event m.screen m.report.event) := by
  rw [event_eq, h.layout_eq, h.controls_eq, if_neg hm]
  cases m.asks? layout wired with
  | none => exact h
  | some action => exact h.apply action

/-- A session takes the reports up to the first that quits, and holds what those before it
entered. -/
theorem events (h : Holds layout wired chars app) (hleaving : app.leaving = false)
    {before : List Moment} (hbefore : ∀ m ∈ before, ¬m.report.Quits layout) {last : Moment}
    (hlast : last.report.Quits layout) (after : List Moment) :
    ∃ final, app.events ((before ++ last :: after).map Moment.event) =
        (final, before.length + 1) ∧ final.leaving = true ∧
      Holds layout wired
        ((before.filterMap (Moment.asks? layout wired)).foldl (enter wired) chars) final := by
  induction before generalizing app chars with
  | nil =>
    -- the first report quits, and nothing behind it is read
    have hleave : app.event last.screen last.report.event = app.leave := by
      rw [event_eq, h.layout_eq, if_pos hlast]
    refine ⟨app.leave, ?_, rfl, h.leave⟩
    rw [List.nil_append, List.map_cons, Moment.event, events_cons hleaving, hleave,
      events_of_leaving rfl]
    rfl
  | cons m rest ih =>
    have hm : ¬m.report.Quits layout := hbefore m List.mem_cons_self
    -- the session goes on with an app that holds one report more
    have hstay : (app.event m.screen m.report.event).leaving = false := by
      rw [event_eq, h.layout_eq, if_neg hm, leaving_applyAny, hleaving]
    obtain ⟨final, hrun, hfinal, hholds⟩ :=
      ih (h.event hm) hstay fun m' hm' => hbefore m' (List.mem_cons_of_mem _ hm')
    refine ⟨final, ?_, hfinal, ?_⟩
    · rw [List.cons_append, List.map_cons, Moment.event, events_cons hleaving, hrun]
      rfl
    · rw [← List.foldl_append] at hholds
      rw [List.filterMap_cons]
      cases ha : m.asks? layout wired with
      | none =>
        rw [ha] at hholds
        exact hholds
      | some action =>
        rw [ha] at hholds
        exact hholds

end Holds

end App

end Terminal

/-! ## The program -/

namespace Program

open Terminal

section

variable {m : Type → Type} [Monad m] [LawfulMonad m] (host : Host m) (log : Log.Record → m Unit)

/-- Where the terminal gives the events of a user, the program returns the amount that they make,
whatever it logs. -/
theorem run_interact {s : Settings} {app : App} (happ : App.ofSettings s = .ok app)
    {events : List (Rect × TerminalEvent)} (hplay : host.play app = pure (.ok events)) :
    ∃ said : m Unit, (interact host log s).run =
      (fun _ => .ok (app.events events).1.amount.text) <$> said := by
  refine ⟨do
    log (.ready app.layout.keyCount s.policy)
    logActions log (app.actions events)
    log (.closed (app.events events).1.amount.text), ?_⟩
  simp [interact, openApp, ofPad, happ, hplay, Except.mapError]
  rfl

end

/-- **A session returns what was entered.** For all settings with an app, and all that a terminal
can report up to a report that quits and behind it: the session takes the reports up to the first
that quits; the amount is what the reports before that one asked for, behind the controls of the
policy; and where the terminal does not fail, the program returns this amount. -/
theorem interact_returns_entered {s : Settings} {app : App} (happ : App.ofSettings s = .ok app)
    {stream : List Moment} (hquits : ∃ r ∈ stream, r.report.Quits app.layout) :
    ∃ before last after, stream = before ++ last :: after ∧
      (∀ r ∈ before, ¬r.report.Quits app.layout) ∧ last.report.Quits app.layout ∧
      ∃ final, app.events (stream.map Moment.event) = (final, before.length + 1) ∧
        final.leaving = true ∧
        final.amount.text.toList = entered (App.controlsUnder s.policy)
          (before.filterMap (Moment.asks? app.layout (App.controlsUnder s.policy))) ∧
        ∀ {m : Type → Type} [Monad m] [LawfulMonad m] (host : Host m) (log : Log.Record → m Unit),
          host.play app = pure (.ok (stream.map Moment.event)) →
          ∃ said : m Unit, (interact host log s).run =
            (fun _ => .ok final.amount.text) <$> said := by
  obtain ⟨layout, -, rfl⟩ := App.ofSettings_eq_ok_iff.mp happ
  obtain ⟨r, hr, hquit⟩ : ∃ r ∈ stream, r.report.Quits layout := hquits
  -- split the reports at the first that quits
  obtain ⟨last, hfound⟩ : ∃ last, stream.find? (·.report.Quits layout) = some last := by
    rw [← Option.isSome_iff_exists, List.find?_isSome]
    exact ⟨r, hr, decide_eq_true hquit⟩
  obtain ⟨hlast, before, after, rfl, hbefore⟩ := List.find?_eq_some_iff_append.mp hfound
  replace hlast : last.report.Quits layout := by simpa using hlast
  replace hbefore : ∀ r ∈ before, ¬r.report.Quits layout := by simpa using hbefore
  have hstart := App.start_holds layout s.policy
  obtain ⟨final, hevents, hleaving, hholds⟩ := hstart.events rfl hbefore hlast after
  refine ⟨before, last, after, rfl, hbefore, hlast, final, hevents, hleaving, hholds.entered, ?_⟩
  intro m _ _ host log hplay
  have hrun := run_interact host log happ hplay
  rwa [hevents] at hrun

/-- Settings with a label that would else quit. -/
def hastySettings : Settings := { rows := [["q", "1"]], policy := .required }

/-- The app of these settings. -/
def hastyApp : App := .start ⟨Layout.gridKeys 0 [["q", "1"]], 1, 2⟩ .required

/-- A label that is typed, the same click before and after the terminal has become smaller, an
interrupt that comes up, a clear that waits for control and one that does not, and what comes after
the interrupt. -/
def hastyStream : List Moment :=
  [⟨.key (.char '1') [] .press, 80, 24⟩, ⟨.key .delete [.shift] .press, 80, 24⟩,
    ⟨.key (.char 'q') [.shift] .press, 80, 24⟩, ⟨.mouse (.down .left) 50 8, 80, 24⟩,
    ⟨.resized 40 12, 40, 12⟩, ⟨.mouse (.down .left) 50 8, 40, 12⟩,
    ⟨.mouse (.up .left) 50 8, 80, 24⟩, ⟨.key (.char 'c') [.control] .release, 80, 24⟩,
    ⟨.key .delete [.control] .press, 80, 24⟩, ⟨.key (.char 'c') [.alt, .control] .hold, 80, 24⟩,
    ⟨.key (.char '1') [] .press, 80, 24⟩]

/-- A host that gives these events of a user, and has nothing else. -/
def hostOf (events : List (Rect × TerminalEvent)) : Host Id where
  environment _ := none
  readText _ := .error .notFound
  append _ _ := .ok ()
  print _ := ()
  report _ := ()
  reportsToTerminal := false
  play _ := .ok events

theorem interact_returns_entered_hasty :
    (∃ before last after, hastyStream = before ++ last :: after ∧ before.length = 9) ∧
      (interact (hostOf (hastyStream.map Moment.event)) (fun _ => ()) hastySettings).run =
        .ok "q1" := by
  have happ : App.ofSettings hastySettings = .ok hastyApp := by rfl
  have hquits : ∃ r ∈ hastyStream, r.report.Quits hastyApp.layout :=
    ⟨⟨.key (.char 'c') [.alt, .control] .hold, 80, 24⟩, by decide, by decide⟩
  obtain ⟨before, last, after, hsplit, -, -, final, hevents, -, -, hprogram⟩ :=
    interact_returns_entered happ hquits
  have hcount : (hastyApp.events (hastyStream.map Moment.event)).2 = 10 := by rfl
  have htext : (hastyApp.events (hastyStream.map Moment.event)).1.amount.text = "q1" := by rfl
  rw [hevents] at hcount htext
  obtain ⟨said, hrun⟩ := hprogram (hostOf (hastyStream.map Moment.event)) (fun _ => ()) rfl
  refine ⟨⟨before, last, after, hsplit, Nat.succ.inj hcount⟩, ?_⟩
  rw [hrun, htext]
  rfl

end Program

end AmountPad
