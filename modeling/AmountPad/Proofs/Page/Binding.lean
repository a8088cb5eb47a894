import Mathlib
import AmountPad.Page.Bound
import AmountPad.Proofs.Layout.Lookup
import AmountPad.Proofs.Page.Keypad
import AmountPad.Proofs.Page.Mirror
import AmountPad.Proofs.Page.Resolution

/-!
# Which settings can be bound to their own page

A page is built from the same settings that a pad is then bound by, so that most of what the pad
looks for is there. Since nobody checks the identifiers, they may still be empty, equal to each
other, or equal to identifiers that the page gives to its panel, its grid and its keys. This module
says for all settings which failure comes of that, if any.

* `Variant.Offers` — a page bears the identifier of a control;
* `Desk.Refused` — the failure that settings are due whose page cannot be built or bound.

Main results:

* `Document.lacks_ofKeypad_iff` — the identifiers that a page does not bear;
* `Desk.ofSettings_eq_ok_iff`, `Desk.ofSettings_eq_error_iff` — a desk is built and bound, or fails
  in one of these steps;
* `Desk.display_of_ofSettings` — the display of a desk is no key, and shows nothing;
* `Desk.bound_unless_refused` — all of it for all settings.
-/

namespace AmountPad.Page

/-! ## What a page bears -/

/-- Whether the page of a layout bears the identifier of a control. A page with controls bears every
identifier that is not empty; one without may do so by accident. -/
def Variant.Offers (layout : Layout) (markup : Markup) (control : Control) : Variant → Prop
  | .withControls => markup.controlId control ≠ ""
  | .keysOnly => markup.controlId control ≠ "" ∧
    (markup.controlId control = "amount-panel" ∨ markup.controlId control = "keypad-grid" ∨
      markup.controlId control = markup.displayId ∨
      ∃ row < layout.rows, ∃ col < layout.cols,
        markup.controlId control = "key-" ++ toString row ++ "-" ++ toString col)

namespace Document

/-- A document lacks an identifier if none of its elements has it. -/
theorem lacks_iff_elements {d : Document} {id : String} :
    d.Lacks id ↔ id = "" ∨ ∀ e ∈ d.elements, e.id ≠ id := by
  unfold Lacks Bears
  simp only [element?_eq]
  constructor
  · rintro (hempty | hnone)
    · exact .inl hempty
    · refine .inr fun e he hid => ?_
      obtain ⟨h, hh⟩ := List.mem_iff_getElem?.mp he
      exact hnone h ⟨e, hh, hid⟩
  · rintro (hempty | hnone)
    · exact .inl hempty
    · refine .inr ?_
      rintro h ⟨e, he, hid⟩
      exact hnone e (List.mem_of_getElem? he) hid

/-- The identifiers that the page of a layout does not bear. -/
theorem lacks_ofKeypad_iff {layout : Layout} {markup : Markup} {variant : Variant} {id : String} :
    (ofKeypad layout markup variant).Lacks id ↔ id = "" ∨
      id ≠ "amount-panel" ∧ id ≠ "keypad-grid" ∧ id ≠ markup.displayId ∧
        (¬∃ key ∈ layout.keys, key.id = id) ∧
        ∀ e ∈ controlButtons markup variant, e.id ≠ id := by
  rw [lacks_iff_elements, elements_ofKeypad]
  refine or_congr_right' fun hid => ?_
  -- the elements one after the other; the body has the empty identifier
  simp only [frame, List.mem_append, List.mem_cons, List.not_mem_nil, or_false, List.mem_map]
  constructor
  · intro hnone
    refine ⟨fun h => ?_, fun h => ?_, fun h => ?_, ?_, fun e he => hnone e (.inr he)⟩
    · exact hnone { id := "amount-panel" } (by simp) h.symm
    · exact hnone { id := "keypad-grid" } (by simp) h.symm
    · exact hnone { tag := "span", id := markup.displayId, classes := ["display"] } (by simp) h.symm
    · rintro ⟨key, hkey, hk⟩
      exact hnone (keyButton markup key) (.inl (.inr ⟨key, hkey, rfl⟩)) hk
  · rintro ⟨hpanel, hgrid, hdisplay, hkeys, hcontrols⟩ e he
    rcases he with ((rfl | rfl | rfl | rfl) | ⟨key, hkey, rfl⟩) | he
    · exact Ne.symm hid
    · exact Ne.symm hpanel
    · exact Ne.symm hdisplay
    · exact Ne.symm hgrid
    · exact fun hk => hkeys ⟨key, hkey, hk⟩
    · exact hcontrols e he

/-- The display is missing only under the empty identifier. -/
theorem lacks_displayId_iff {layout : Layout} {markup : Markup} {variant : Variant} :
    (ofKeypad layout markup variant).Lacks markup.displayId ↔ markup.displayId = "" := by
  rw [lacks_ofKeypad_iff]
  constructor
  · rintro (hempty | ⟨-, -, hne, -⟩)
    · exact hempty
    · exact absurd rfl hne
  · exact .inl

/-- A control is missing unless the page offers it. -/
theorem lacks_controlId_iff {layout : Layout} (hg : layout.IsGrid) {markup : Markup}
    {variant : Variant} (control : Control) :
    (ofKeypad layout markup variant).Lacks (markup.controlId control) ↔
      ¬variant.Offers layout markup control := by
  rw [lacks_ofKeypad_iff]
  cases variant with
  | withControls =>
    show _ ↔ ¬markup.controlId control ≠ ""
    rw [not_not]
    constructor
    · rintro (hempty | ⟨-, -, -, -, hcontrols⟩)
      · exact hempty
      · -- the page has a button for this control
        cases control with
        | clear =>
          have hbutton : controlButton markup.clearId "C" ∈ controlButtons markup .withControls := by
            simp [controlButtons]
          exact absurd rfl (hcontrols _ hbutton)
        | backspace =>
          have hbutton : controlButton markup.backspaceId "⌫" ∈
              controlButtons markup .withControls := by simp [controlButtons]
          exact absurd rfl (hcontrols _ hbutton)
    · exact .inl
  | keysOnly =>
    -- without controls, only a key of the grid can have the identifier
    rw [hg.exists_id_eq_iff]
    unfold Variant.Offers Key.idAt
    simp only [controlButtons, List.not_mem_nil, false_imp_iff, implies_true, and_true]
    rw [not_and_or, not_ne_iff, not_or, not_or, not_or]

end Document

namespace Desk

variable {variant : Variant} {s : Settings}

/-! ## Building and binding -/

/-- The failure that settings are due whose layout has a page: the display has no identifier, or
else a required control is not on the page, clear before backspace. -/
def Unbound (layout : Layout) (variant : Variant) (s : Settings) : Failure → Prop
  | .missingDisplay id => s.markup.displayId = "" ∧ id = s.markup.displayId
  | .missingControl .clear id => s.markup.displayId ≠ "" ∧ s.policy = .required ∧
    ¬variant.Offers layout s.markup .clear ∧ id = s.markup.clearId
  | .missingControl .backspace id => s.markup.displayId ≠ "" ∧ s.policy = .required ∧
    variant.Offers layout s.markup .clear ∧ ¬variant.Offers layout s.markup .backspace ∧
    id = s.markup.backspaceId
  | _ => False

/-- The failure that settings are due: the flaw of their rows, or else that of their page. -/
def Refused (variant : Variant) (s : Settings) (e : Failure) : Prop :=
  match Layout.ofRows s.rows with
  | .error flaw => e = .invalidLayout flaw
  | .ok layout => Unbound layout variant s e

/-- A desk is a pad that is bound to the page of the layout. -/
theorem ofSettings_eq_ok_iff {desk : Desk} : ofSettings variant s = .ok desk ↔
    ∃ layout bound, Layout.ofRows s.rows = .ok layout ∧
      Bound.attach (.ofKeypad layout s.markup variant) s = .ok bound ∧
      desk = ⟨bound, s.markup.clearId, s.markup.backspaceId⟩ := by
  unfold ofSettings Layout.build
  cases Layout.ofRows s.rows with
  | error flaw => simp [Except.mapError, bind, Except.bind]
  | ok layout =>
    cases h : Bound.attach (.ofKeypad layout s.markup variant) s with
    | error e => simp [Except.mapError, bind, Except.bind, h]
    | ok bound => simp [Except.mapError, bind, Except.bind, pure, Except.pure, h, eq_comm]

/-- What is missing on the page of a layout is what the settings are due. -/
theorem missing_ofKeypad_iff {layout : Layout} (hg : layout.IsGrid) {e : Failure} :
    View.Missing (.ofKeypad layout s.markup variant) s e ↔ Unbound layout variant s e := by
  have hclear : (Document.ofKeypad layout s.markup variant).Lacks s.markup.clearId ↔
      ¬variant.Offers layout s.markup .clear := Document.lacks_controlId_iff hg .clear
  have hback : (Document.ofKeypad layout s.markup variant).Lacks s.markup.backspaceId ↔
      ¬variant.Offers layout s.markup .backspace := Document.lacks_controlId_iff hg .backspace
  cases e with
  | missingDisplay id => simp only [View.Missing, Unbound, Document.lacks_displayId_iff]
  | missingControl control id =>
    cases control with
    | clear => simp only [View.Missing, Unbound, Document.lacks_displayId_iff, hclear, ne_eq]
    | backspace =>
      simp only [View.Missing, Unbound, Document.lacks_displayId_iff, hclear, hback, not_not, ne_eq]
  | _ => exact Iff.rfl

/-- Settings fail exactly with the failure that they are due. -/
theorem ofSettings_eq_error_iff {e : Failure} :
    ofSettings variant s = .error e ↔ Refused variant s e := by
  unfold ofSettings Layout.build Refused
  cases hl : Layout.ofRows s.rows with
  | error flaw => simp [Except.mapError, bind, Except.bind, eq_comm]
  | ok layout =>
    have hw := (Document.reachable_ofKeypad layout s.markup variant).wellFormed
    dsimp only
    rw [← missing_ofKeypad_iff (Layout.isGrid_of_ofRows hl), ← View.resolve_eq_error_iff hw]
    -- behind the view, nothing fails
    unfold Bound.attach
    cases h : View.resolve (.ofKeypad layout s.markup variant) s with
    | error e' => simp [Except.mapError, bind, Except.bind, h]
    | ok view => simp [Except.mapError, bind, Except.bind, pure, Except.pure, h]

/-- Settings that are due no failure have a layout, a display and the controls that they require. -/
theorem not_refused_iff : (∀ e, ¬Refused variant s e) ↔
    ∃ layout, Layout.ofRows s.rows = .ok layout ∧ s.markup.displayId ≠ "" ∧
      (s.policy = .required → ∀ control, variant.Offers layout s.markup control) := by
  unfold Refused
  cases hl : Layout.ofRows s.rows with
  | error flaw => simp
  | ok layout =>
    have hg := Layout.isGrid_of_ofRows hl
    have hboth : (¬(Document.ofKeypad layout s.markup variant).Lacks s.markup.clearId ∧
        ¬(Document.ofKeypad layout s.markup variant).Lacks s.markup.backspaceId) ↔
        ∀ control, variant.Offers layout s.markup control := by
      have hlacks : ∀ control,
          (Document.ofKeypad layout s.markup variant).Lacks (s.markup.controlId control) ↔
            ¬variant.Offers layout s.markup control := Document.lacks_controlId_iff hg
      constructor
      · rintro ⟨hclear, hback⟩ control
        by_contra hnot
        cases control with
        | clear => exact hclear ((hlacks .clear).mpr hnot)
        | backspace => exact hback ((hlacks .backspace).mpr hnot)
      · intro hoffers
        exact ⟨fun h => (hlacks .clear).mp h (hoffers .clear),
          fun h => (hlacks .backspace).mp h (hoffers .backspace)⟩
    -- the failure of these settings is the one of their page
    simp only [← missing_ofKeypad_iff hg]
    rw [View.not_missing_iff, Document.lacks_displayId_iff, hboth]
    simp

/-! ## The display of a desk -/

/-- The display of a page is no button. -/
theorem tag_display {layout : Layout} (hne : s.markup.displayId ≠ "") {display : Handle}
    (h : (Document.ofKeypad layout s.markup variant).byId? s.markup.displayId = some display) :
    ∃ e, (Document.ofKeypad layout s.markup variant).element? display = some e ∧
      e.id = s.markup.displayId ∧ e.tag ≠ "button" := by
  rw [Document.byId?_displayId layout hne variant, Option.some.injEq] at h
  subst h
  rw [Document.element?_eq, Document.elements_ofKeypad, List.append_assoc]
  by_cases hpanel : s.markup.displayId = "amount-panel"
  · -- the panel comes first, under the same identifier
    rw [if_pos hpanel]
    exact ⟨{ id := "amount-panel" }, rfl, hpanel.symm, show "div" ≠ "button" by decide⟩
  · rw [if_neg hpanel]
    exact ⟨{ tag := "span", id := s.markup.displayId, classes := ["display"] }, rfl, rfl,
      show "span" ≠ "button" by decide⟩

/-- The display of a desk is no key of the page, and shows nothing. -/
theorem display_of_ofSettings {desk : Desk} (hdesk : ofSettings variant s = .ok desk) :
    ∃ layout e, Layout.ofRows s.rows = .ok layout ∧
      (Document.ofKeypad layout s.markup variant).element? desk.bound.pad.view.display = some e ∧
      e.id = s.markup.displayId ∧ (∀ key ∈ layout.keys, e ≠ keyButton s.markup key) ∧
      desk.bound.shown? = some "" := by
  obtain ⟨layout, bound, hl, hbound, rfl⟩ := ofSettings_eq_ok_iff.mp hdesk
  obtain ⟨view, hview, rfl⟩ := Bound.attach_eq_ok_iff.mp hbound
  -- the display was found by its identifier, and has the tag of no key
  have hfound := (View.resolve_eq_ok_iff.mp hview).1
  have hw := (Document.reachable_ofKeypad layout s.markup variant).wellFormed
  have hne : s.markup.displayId ≠ "" := ((Document.byId?_eq_some_iff hw).mp hfound).1
  obtain ⟨e, he, hid, htag⟩ := tag_display hne hfound
  refine ⟨layout, e, hl, he, hid, ?key, ?shown⟩
  case key =>
    rintro key - rfl
    exact htag rfl
  case shown => exact Document.text?_setText_self (Document.lt_size_of_byId? hfound) ""

/-- **A pad is bound to its own page unless that is refused.** For all settings and both kinds of
page: building and binding fails exactly with the failure that the settings are due, where a page
bears the identifiers of the controls that it offers. In every other case there is a desk; its
display is a node with the identifier of the display, which is no key of the page, and it shows
nothing. -/
theorem bound_unless_refused (variant : Variant) (s : Settings) :
    (∀ e, ofSettings variant s = .error e ↔ Refused variant s e) ∧
      (∀ layout, Layout.ofRows s.rows = .ok layout → ∀ control,
        ((Document.ofKeypad layout s.markup variant).Lacks (s.markup.controlId control) ↔
          ¬variant.Offers layout s.markup control)) ∧
      ((∃ desk, ofSettings variant s = .ok desk) ↔
        ∃ layout, Layout.ofRows s.rows = .ok layout ∧ s.markup.displayId ≠ "" ∧
          (s.policy = .required → ∀ control, variant.Offers layout s.markup control)) ∧
      ∀ desk, ofSettings variant s = .ok desk → desk.content = "" ∧
        ∃ layout e, Layout.ofRows s.rows = .ok layout ∧
          (Document.ofKeypad layout s.markup variant).element? desk.bound.pad.view.display =
            some e ∧
          e.id = s.markup.displayId ∧ (∀ key ∈ layout.keys, e ≠ keyButton s.markup key) ∧
          desk.bound.shown? = some "" := by
  refine ⟨fun e => ofSettings_eq_error_iff, fun layout hl control => ?page, ?bound,
    fun desk hdesk => ?display⟩
  case page => exact Document.lacks_controlId_iff (Layout.isGrid_of_ofRows hl) control
  case bound =>
    -- a desk is built exactly where no failure is due
    rw [← not_refused_iff]
    simp only [← ofSettings_eq_error_iff]
    cases ofSettings variant s <;> simp
  case display =>
    have hdisplay := display_of_ofSettings hdesk
    refine ⟨?_, hdisplay⟩
    obtain ⟨-, -, -, -, -, -, hshown⟩ := hdisplay
    unfold content
    rw [hshown, Option.getD_some]

/-- Settings that look for the display in place of the panel and for clear in place of a key. -/
def colliding (backspaceId : String) : Settings where
  markup := { displayId := "amount-panel", clearId := "key-0-1", backspaceId := backspaceId }
  policy := .required
  rows := [["7", "8"]]

/-- The layout of these settings. -/
def collidingLayout : Layout := ⟨Layout.gridKeys 0 [["7", "8"]], 1, 2⟩

theorem bound_unless_refused_colliding :
    (∃ desk, ofSettings .keysOnly (colliding "amount-panel") = .ok desk ∧ desk.content = "") ∧
      ofSettings .keysOnly (colliding "key-1-0") =
        .error (.missingControl .backspace "key-1-0") := by
  have hclear : ∀ id, Variant.keysOnly.Offers collidingLayout (colliding id).markup .clear :=
    fun _ => ⟨show "key-0-1" ≠ "" by decide, .inr (.inr (.inr ⟨0, by decide, 1, by decide, rfl⟩))⟩
  constructor
  · have hback : Variant.keysOnly.Offers collidingLayout (colliding "amount-panel").markup
        .backspace := ⟨by decide, .inl rfl⟩
    obtain ⟨-, -, hbound, hdisplay⟩ := bound_unless_refused .keysOnly (colliding "amount-panel")
    obtain ⟨desk, hdesk⟩ := hbound.mpr ⟨collidingLayout, rfl, by decide, fun _ control =>
      match control with
      | .clear => hclear _
      | .backspace => hback⟩
    exact ⟨desk, hdesk, (hdisplay desk hdesk).1⟩
  · have hnot : ¬Variant.keysOnly.Offers collidingLayout (colliding "key-1-0").markup
        .backspace := by
      rintro ⟨-, hpanel | hgrid | hdisplay | ⟨row, hrow, col, -, hkey⟩⟩
      · exact absurd hpanel (by decide)
      · exact absurd hgrid (by decide)
      · exact absurd hdisplay (by decide)
      · -- it would be a key of a second row
        obtain ⟨rfl, -⟩ := Key.idAt_inj.mp (show Key.idAt 1 0 = Key.idAt row col from hkey)
        exact absurd hrow (by decide)
    have hdue : Unbound collidingLayout .keysOnly (colliding "key-1-0")
        (.missingControl .backspace "key-1-0") := ⟨by decide, rfl, hclear _, hnot, rfl⟩
    obtain ⟨hfails, -⟩ := bound_unless_refused .keysOnly (colliding "key-1-0")
    exact (hfails _).mpr hdue

end Desk

end AmountPad.Page
