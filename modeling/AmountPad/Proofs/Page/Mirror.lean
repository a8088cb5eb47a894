import Mathlib
import AmountPad.Page.Bound
import AmountPad.Proofs.Entry
import AmountPad.Proofs.Page.View

/-!
# The display shows what was entered

A bound pad reacts to the events of its page while the page itself changes under it: elements are
added, other elements take on identifiers and classes, labels are rewritten. Whatever happens, the
display shows the amount, and the amount is what was entered: this is an invariant of every move of
a user, of the pad and of the page, as long as nobody else writes to the display.

* `Bound.Move` — what can happen to a bound pad, and `Bound.play` for a list of such moves;
* `View.enterMoves` — what a list of moves enters, each at the document as it is at that moment.

Main results:

* `Bound.actionFor?_eq_request?` — an event asks for what `View.request?` says;
* `Mirrors.move` — one move keeps the invariant;
* `Bound.play_mirrors` — so does every list of moves;
* `Bound.display_shows_entered` — the display shows what was entered since the pad was bound.
-/

namespace AmountPad.Page

/-! ## What can happen to a bound pad -/

/-- One move of a user, of the pad or of the page. -/
inductive Bound.Move where
  | handle (event : Event)
  | click (target : Handle)
  | clickId (id : String)
  | clickLabel (label : String)
  | pressKey (key : String)
  | reset
  /-- A change of the document that the pad has no part in. -/
  | edit (edit : Document.Edit)

/-- Whether a change of the document leaves the own text of a node alone. -/
def Document.Edit.Spares (node : Handle) : Document.Edit → Prop
  | .change h f => h = node → ∀ e, (f e).text = e.text
  | _ => True

/-- Whether a move leaves the own text of a node to the pad. -/
def Bound.Move.Spares (node : Handle) : Bound.Move → Prop
  | .edit change => change.Spares node
  | _ => True

namespace Bound

/-- The pad and its document after a move. -/
def move (b : Bound) : Move → Bound
  | .handle event => (b.handle event).1
  | .click target => (b.click target).1
  | .clickId id => (b.clickId id).1
  | .clickLabel label => (b.clickLabel label).1
  | .pressKey key => (b.pressKey key).1
  | .reset => b.reset
  | .edit change => { b with document := b.document.apply change }

/-- The pad and its document after a list of moves. -/
def play (b : Bound) (moves : List Move) : Bound := moves.foldl move b

/-- Clicks the element that a search has found, if there is one. -/
def clickAny (b : Bound) : Option Handle → Bound × Bool
  | some target => b.click target
  | none => (b, false)

/-- A click by identifier is one on the node that has it, if there is one. -/
theorem clickId_eq (b : Bound) (id : String) :
    b.clickId id = b.clickAny (b.document.byId? id) := by
  rw [clickId]
  cases b.document.byId? id <;> rfl

/-- A click by label is one on the key that shows it, if there is one. -/
theorem clickLabel_eq (b : Bound) (label : String) :
    b.clickLabel label = b.clickAny (b.pad.view.keyShowing? b.document label) := by
  rw [clickLabel]
  cases b.pad.view.keyShowing? b.document label <;> rfl

/-- Where the document has the display, it shows the amount that is written to it. -/
theorem shown?_sync {b : Bound} (h : b.pad.view.display < b.document.size) :
    b.sync.shown? = some b.pad.amount.text :=
  Document.text?_setText_self h b.pad.amount.text

/-- A move of a user is an event, or comes to nothing. -/
theorem move_cases (b : Bound) (m : Move) :
    m = .reset ∨ (∃ change, m = .edit change) ∨ (∃ event, b.move m = (b.handle event).1) ∨
      b.move m = b := by
  -- a click on what is looked up is one on a node, or on nothing
  have hany : ∀ target, (∃ event, (b.clickAny target).1 = (b.handle event).1) ∨
      (b.clickAny target).1 = b := by
    intro target
    cases target with
    | none => exact .inr rfl
    | some h => exact .inl ⟨.click h, rfl⟩
  cases m with
  | handle event => exact .inr (.inr (.inl ⟨event, rfl⟩))
  | click target => exact .inr (.inr (.inl ⟨.click target, rfl⟩))
  | pressKey key => exact .inr (.inr (.inl ⟨.keyDown key none, rfl⟩))
  | clickId id =>
    rw [move, clickId_eq]
    exact .inr (.inr (hany _))
  | clickLabel label =>
    rw [move, clickLabel_eq]
    exact .inr (.inr (hany _))
  | reset => exact .inl rfl
  | edit change => exact .inr (.inl ⟨change, rfl⟩)

/-- Moves with the document as it is just before each of them. -/
def moments : Bound → List Move → List (Document × Move)
  | _, [] => []
  | b, m :: rest => (b.document, m) :: (b.move m).moments rest

end Bound

/-! ## What was entered -/

namespace View

/-- The event that a move comes down to. -/
def eventOf? (v : View) (d : Document) : Bound.Move → Option Event
  | .handle event => some event
  | .click target => some (.click target)
  | .clickId id => (d.byId? id).map .click
  | .clickLabel label => (v.keys.find? (d.textBelow · == label)).map .click
  | .pressKey key => some (.keyDown key none)
  | .reset => none
  | .edit _ => none

/-- What an event, if there is one, makes of the characters entered before it. -/
def enterEvent (v : View) (d : Document) (chars : List Char) (event : Option Event) : List Char :=
  match event.bind (v.request? d) with
  | some action => enter v.controls chars action
  | none => chars

/-- What a move makes of the characters entered before it. -/
def enterMove (v : View) (d : Document) (chars : List Char) : Bound.Move → List Char
  | .reset => []
  | m => v.enterEvent d chars (v.eventOf? d m)

/-- What moves make of the characters entered before them, each at the document as it is then. -/
def enterMoves (v : View) (chars : List Char) (moments : List (Document × Bound.Move)) :
    List Char :=
  moments.foldl (fun chars (d, m) => v.enterMove d chars m) chars

end View

/-! ## The invariant -/

namespace Bound

/-- Where the page has the keys of the pad, an event asks for its request. -/
theorem actionFor?_eq_request? {b : Bound} (hd : b.document.WellFormed)
    (hk : ∀ k ∈ b.pad.view.keys, k < b.document.size) (event : Event) :
    b.actionFor? event = b.pad.view.request? b.document event := by
  cases event with
  | click h => exact View.clickAction?_eq hd hk h
  | keyDown key origin => exact View.keyAction?_eq hd hk key origin

end Bound

/-- A pad with a view shows its amount, which is of these characters, on a document that has the
display and the keys. -/
structure Mirrors (v : View) (chars : List Char) (b : Bound) : Prop where
  tree : b.document.WellFormed
  view_eq : b.pad.view = v
  display_lt : v.display < b.document.size
  keys_lt : ∀ k ∈ v.keys, k < b.document.size
  shown : b.shown? = some b.pad.amount.text
  entered : b.pad.amount.text.toList = chars

namespace Mirrors

variable {v : View} {chars : List Char} {b : Bound}

/-- Writing the amount to the display makes the display show it. -/
theorem sync {p : Pad} (hd : b.document.WellFormed) (hv : p.view = v)
    (hdisplay : v.display < b.document.size) (hk : ∀ k ∈ v.keys, k < b.document.size) :
    Mirrors v p.amount.text.toList (Bound.sync { b with pad := p }) where
  tree := hd.of_children_eq (Document.size_setText _ _ _) (Document.children_setText _ _ _)
  view_eq := hv
  display_lt := by simpa [Bound.sync] using hdisplay
  keys_lt := by simpa [Bound.sync] using hk
  shown := Bound.shown?_sync (hv ▸ hdisplay)
  entered := rfl

/-- A reset empties the amount and the display. -/
theorem reset (h : Mirrors v chars b) : Mirrors v [] b.reset := by
  have hs := sync (p := { b.pad with amount := .empty }) h.tree h.view_eq h.display_lt h.keys_lt
  rwa [Amount.toList_empty] at hs

theorem record (h : Mirrors v chars b) (event : Event) :
    Mirrors v chars { b with document := b.document.record event } where
  tree := h.tree.apply (.record event)
  view_eq := h.view_eq
  display_lt := h.display_lt
  keys_lt := h.keys_lt
  shown := h.shown
  entered := h.entered

/-- An action enters what it enters behind the controls that are bound. -/
theorem run (h : Mirrors v chars b) (action : Action) :
    Mirrors v (enter v.controls chars action) (b.run action).1 := by
  have hc : b.controls = v.controls := by rw [Bound.controls, h.view_eq]
  have hchars := Amount.toList_run b.pad.amount v.controls action
  rw [h.entered] at hchars
  rw [Bound.run, hc, ← hchars, Amount.run]
  -- an action that runs is written to the display; a refused one leaves all as it is
  cases hr : b.pad.amount.run? v.controls action with
  | some amount =>
    exact sync (p := { b.pad with amount := amount }) h.tree h.view_eq h.display_lt h.keys_lt
  | none =>
    rw [Option.getD_none, h.entered]
    exact h

/-- What an event enters is decided at the document as it is before the event. -/
theorem handle (h : Mirrors v chars b) (event : Event) :
    Mirrors v (v.enterEvent b.document chars (some event)) (b.handle event).1 := by
  have hreq := Bound.actionFor?_eq_request? h.tree (h.view_eq ▸ h.keys_lt) event
  rw [h.view_eq] at hreq
  rw [Bound.handle, hreq, View.enterEvent, Option.bind_some]
  cases v.request? b.document event with
  | some action => exact (h.record event).run action
  | none => exact h.record event

/-- A click on an element that is looked up enters what a click on it enters. -/
theorem clickAny (h : Mirrors v chars b) (target : Option Handle) :
    Mirrors v (v.enterEvent b.document chars (target.map .click)) (b.clickAny target).1 := by
  cases target with
  | some t => exact h.handle (.click t)
  | none => exact h

/-- A change of the document keeps what is shown, if it leaves the text of the display alone. -/
theorem edit (h : Mirrors v chars b) {edit : Document.Edit} (he : edit.Spares v.display) :
    Mirrors v chars { b with document := b.document.apply edit } := by
  -- no change of the page takes a node away
  have hsize : b.document.size ≤ (b.document.apply edit).size := by
    cases edit with
    | append parent e => simp [Document.apply]
    | change h f => simp [Document.apply]
    | record event => exact Nat.le_refl _
    | forget => exact Nat.le_refl _
  -- no change but the pad's own reaches the text of the display
  have htext : (b.document.apply edit).text? v.display = b.document.text? v.display := by
    cases edit with
    | append parent e => exact Document.text?_append h.display_lt parent e
    | change node f => exact Document.text?_edit he
    | record event => rfl
    | forget => rfl
  refine ⟨h.tree.apply edit, h.view_eq, Nat.lt_of_lt_of_le h.display_lt hsize,
    fun k hk => Nat.lt_of_lt_of_le (h.keys_lt k hk) hsize, ?_, h.entered⟩
  have hshown := h.shown
  rw [Bound.shown?, h.view_eq] at hshown ⊢
  exact htext.trans hshown

/-- One move keeps the invariant. -/
theorem move (h : Mirrors v chars b) {m : Bound.Move} (hm : m.Spares v.display) :
    Mirrors v (v.enterMove b.document chars m) (b.move m) := by
  cases m with
  | handle event => exact h.handle event
  | click target => exact h.handle (.click target)
  | clickId id =>
    rw [Bound.move, Bound.clickId_eq]
    exact h.clickAny (b.document.byId? id)
  | clickLabel label =>
    have hkeys : ∀ k ∈ b.pad.view.keys, k < b.document.size := h.view_eq ▸ h.keys_lt
    rw [Bound.move, Bound.clickLabel_eq, View.keyShowing?_eq h.tree hkeys, h.view_eq]
    exact h.clickAny (v.keys.find? (b.document.textBelow · == label))
  | pressKey key => exact h.handle (.keyDown key none)
  | reset => exact h.reset
  | edit change => exact h.edit hm

end Mirrors

namespace Bound

/-- A pad is bound by the view that is resolved, and empties its display. -/
theorem attach_eq_ok_iff {d : Document} {s : Settings} {b : Bound} :
    attach d s = .ok b ↔ ∃ view, View.resolve d s = .ok view ∧ sync ⟨d, { view := view }⟩ = b := by
  rw [attach]
  cases View.resolve d s with
  | error e => simp [bind, Except.bind]
  | ok view => simp [bind, Except.bind, pure, Except.pure]

/-- The display of a pad that is bound is a node of the document. -/
theorem display_lt_of_attach {d : Document} {s : Settings} {b : Bound}
    (hb : attach d s = .ok b) : b.pad.view.display < d.size := by
  obtain ⟨view, hv, rfl⟩ := attach_eq_ok_iff.mp hb
  obtain ⟨hdisplay, -, -⟩ := View.resolve_eq_ok_iff.mp hv
  exact Document.lt_size_of_byId? hdisplay

/-- A pad that was bound to a document shows its amount, which is empty. -/
theorem attach_mirrors {d : Document} (hd : d.WellFormed) {s : Settings} {b : Bound}
    (hb : attach d s = .ok b) : Mirrors b.pad.view [] b := by
  have hdisplay := display_lt_of_attach hb
  obtain ⟨view, hv, rfl⟩ := attach_eq_ok_iff.mp hb
  obtain ⟨-, -, hkeys⟩ := View.resolve_eq_ok_iff.mp hv
  -- the keys that were found are nodes of the document too
  have hs := Mirrors.sync (b := ⟨d, { view := view }⟩) (p := { view := view }) hd rfl hdisplay
    fun k hk => Document.lt_size_of_mem_byClass (hkeys ▸ hk)
  rwa [Amount.toList_empty] at hs

/-- Every list of moves keeps the invariant. -/
theorem play_mirrors {v : View} {chars : List Char} {b : Bound} (h : Mirrors v chars b)
    {moves : List Move} (hm : ∀ m ∈ moves, m.Spares v.display) :
    Mirrors v (v.enterMoves chars (b.moments moves)) (b.play moves) := by
  induction moves generalizing b chars with
  | nil => exact h
  | cons m rest ih =>
    exact ih (h.move (hm m List.mem_cons_self)) fun m' hm' => hm m' (List.mem_cons_of_mem _ hm')

/-- **The display shows what was entered.** On every document that can be reached, and after every
list of moves of which none but the pad's own writes to the display, the display shows the amount of
the pad, and the amount is what the moves entered since the pad was bound or last reset. A key
enters the text that it shows at that moment. -/
theorem display_shows_entered {d : Document} (hd : d.Reachable) {s : Settings} {b : Bound}
    (hb : attach d s = .ok b) {moves : List Move}
    (hm : ∀ m ∈ moves, m.Spares b.pad.view.display) :
    (b.play moves).shown? = some (b.play moves).pad.amount.text ∧
      (b.play moves).pad.amount.text.toList = b.pad.view.enterMoves [] (b.moments moves) ∧
      ∀ k ∈ b.pad.view.keys, (b.play moves).document.innerText? k =
        some ((b.play moves).document.textBelow k) := by
  have h := play_mirrors (attach_mirrors hd.wellFormed hb) hm
  exact ⟨h.shown, h.entered, fun k hk => Document.innerText?_eq h.tree (h.keys_lt k hk)⟩

/-- A page whose display is a key with a label below it, and whose clear control is a key too. -/
def crowdedPage : Document :=
  [.append 0 { tag := "button", id := "clear", classes := ["keypad"] },
    .append 0 { tag := "span", id := "satoshis", classes := ["keypad"] },
    .append 2 { tag := "b", text := "7" }].foldl Document.apply {}

/-- The pad of that page. -/
def crowdedPad : Bound := ⟨crowdedPage, ⟨⟨[1, 2], 2, some 1, none⟩, .empty⟩⟩

/-- Presses the display, whose label then changes; a backspace, which is not wired; and a click on a
node that there is not. -/
def crowdedMoves : List Bound.Move :=
  [.click 2, .clickLabel "77", .edit (.change 3 fun e => { e with text := "x" }), .click 2,
    .pressKey "Backspace", .click 9]

theorem display_shows_entered_crowded :
    (crowdedPad.play crowdedMoves).shown? = some "777777x" ∧
      crowdedPad.pad.view.enterMoves [] (crowdedPad.moments crowdedMoves) =
        "777777x".toList := by
  have hd : crowdedPage.Reachable := Document.Reachable.blank.foldl _
  have hb : attach crowdedPage {} = .ok crowdedPad := by rfl
  have hm : ∀ m ∈ crowdedMoves, m.Spares crowdedPad.pad.view.display := by
    simp [crowdedMoves, crowdedPad, Move.Spares, Document.Edit.Spares]
  have hamount : (crowdedPad.play crowdedMoves).pad.amount.text = "777777x" := by rfl
  obtain ⟨hshown, hentered, -⟩ := display_shows_entered hd hb hm
  rw [hamount] at hshown hentered
  exact ⟨hshown, hentered.symm⟩

end Bound

end AmountPad.Page
