import Mathlib
import AmountPad.Proofs.Terminal.Keypad
import AmountPad.Proofs.Terminal.WordKeypad
import AmountPad.Proofs.Terminal.Writing

/-!
# What is seen of a keypad

Inside the border of a keypad every button has a line and some columns of this line, and its label
stands between brackets in the middle of them, if there is room for it. The buttons are drawn one
after the other, but none over another. So where their labels are plain texts, each is seen as it is
written, and nothing else is seen.

* `Plate`, `plate?` — the text of a button, its line, and the room for it there;
* `lookOf` — how a button looks.

Main results:

* `strokesOf_eq` — what is drawn for a button is the text of its plate, or nothing;
* `hitTest_of_on` — a text stands on the points of its button;
* `keypad_shows_its_buttons` — all that is seen inside the border.
-/

namespace AmountPad.Terminal

open Text (AsciiPrintable)

/-! ## The texts of the buttons -/

/-- The text of a button, and the room for it inside the border. -/
structure Plate where
  text : List Char
  /-- The first of the columns that belong to the button, and how many they are. -/
  column : Nat
  room : Nat
  /-- The line of the text. -/
  line : Nat
  deriving DecidableEq, Repr

namespace Plate

/-- The column in which the text starts: it stands in the middle of its room. -/
def start (p : Plate) : Nat := p.column + (p.room - p.text.length) / 2

/-- Whether there is room for the text. -/
def Shown (p : Plate) : Prop := p.text.length ≤ p.room

/-- Whether the text is seen in a column of a line. -/
def On (p : Plate) (x y : Nat) : Prop :=
  p.Shown ∧ p.start ≤ x ∧ x < p.start + p.text.length ∧ y = p.line

instance (p : Plate) : Decidable p.Shown := inferInstanceAs (Decidable (_ ≤ _))

end Plate

/-- The text of a button between brackets, and where it stands. The keys have the lines and columns
of their rows and columns; the controls that are wired share the lines behind those of the keys, the
clear control in the left half and the backspace in what is left. -/
def plate? (layout : Layout) (wired : Controls) (area : Rect) (b : Button) : Option Plate :=
  let width := area.width - 2
  let w := keyWidth layout area
  let h := keyHeight layout wired area
  match b with
  | .key i => layout.labels[i]?.map fun label =>
      ⟨bracketed label.toList, i % layout.cols * w, w, i / layout.cols * h + h / 2⟩
  | .control control =>
    if wired.permits (.ofControl control) then
      some (match control with
        | .clear => ⟨['[', 'C', ']'], 0, width / 2, layout.rows * h + h / 2⟩
        | .backspace => ⟨['[', '⌫', ']'], width / 2, width - width / 2, layout.rows * h + h / 2⟩)
    else none

/-- The colour of a button. -/
def colorOf : Button → Color
  | .key _ => .white
  | .control .clear => .red
  | .control .backspace => .magenta

/-- How a button looks: black on yellow and bold if it was pressed last, else in its own colour. -/
def lookOf (pressed : Option Button) (b : Button) : Look :=
  if pressed = some b then ⟨.black, .yellow, true⟩ else ⟨colorOf b, .reset, false⟩

theorem apply_buttonStyle (pressed : Option Button) (b : Button) :
    (buttonStyle pressed b).apply {} = lookOf pressed b := by
  unfold buttonStyle lookOf
  by_cases h : pressed = some b
  · rw [if_pos h, if_pos h]
    rfl
  · rw [if_neg h, if_neg h]
    rcases b with i | control
    · rfl
    · cases control with
      | clear => rfl
      | backspace => rfl

/-- Only the button that was pressed last stands out. -/
theorem lookOf_eq_iff {pressed : Option Button} {b : Button} :
    lookOf pressed b = ⟨.black, .yellow, true⟩ ↔ pressed = some b := by
  unfold lookOf
  by_cases h : pressed = some b
  · rw [if_pos h]
    exact iff_of_true rfl h
  · rw [if_neg h]
    refine iff_of_false (fun hlook => ?_) h
    exact Bool.false_ne_true (congrArg Look.bold hlook)

/-- A plain text is written on a button as a whole or not at all. -/
theorem drawButton_of_plain {screen cell : Rect} {label : List Char} {style : Style}
    (hplain : Plain (bracketed label))
    (hright : (bracketed label).length ≤ cell.width → cell.right ≤ screen.right) :
    drawButton screen cell label style =
      if (bracketed label).length ≤ cell.width then
        inkRow (cell.x + (cell.width - (bracketed label).length) / 2) (cell.y + cell.height / 2)
          ((bracketed label).map (charInk style))
      else [] := by
  unfold drawButton
  dsimp only
  rw [← bracketed]
  by_cases hroom : (bracketed label).length ≤ cell.width
  · have hend := hright hroom
    unfold Rect.right at hend
    -- neither the cell nor the screen ends before the text does
    rw [if_neg (Nat.not_lt_of_le hroom), if_pos hroom, write_of_plain hplain,
      List.take_of_length_le]
    unfold Rect.right
    omega
  · rw [if_pos (Nat.lt_of_not_le hroom), if_neg hroom]

/-- The texts of the controls are plain, although the symbol of the backspace is not one of ASCII. -/
theorem plain_controlLabel (control : Control) : Plain (bracketed (controlLabel control)) := by
  have hclusters : Text.clusters (bracketed (controlLabel control)) =
      (bracketed (controlLabel control)).map fun c => [c] := by
    cases control <;> decide +kernel
  have hchars : (bracketed (controlLabel control)).all
      (fun c => Text.columns [c] == 1 && !isControl c) = true := by
    cases control <;> decide +kernel
  rw [List.all_eq_true] at hchars
  refine ⟨hclusters, fun c hc => ?_, fun c hc => ?_⟩
  · simpa using (Bool.and_eq_true_iff.mp (hchars c hc)).1
  · simpa using (Bool.and_eq_true_iff.mp (hchars c hc)).2

section

variable {layout : Layout} {wired : Controls} {area : Rect} (hlayout : layout.IsGrid)
  (hplain : ∀ label ∈ layout.labels, Plain (bracketed label.toList))
  (hw : keyWidth layout area ≠ 0) (hh : keyHeight layout wired area ≠ 0)

/-- A cell with a column ends where the screen does, or before. -/
theorem right_le_of_has {g : Grid} (hg : g.Divides layout wired area) {b : Button}
    (hb : g.Has wired b) (hpos : 0 < (g.cell b).width) : (g.cell b).right ≤ area.right := by
  have hheight := hg.height_pos
  -- the last column of the cell is inside the border
  have hlast : (g.cell b).contains ((g.cell b).right - 1) (g.cell b).y = true := by
    rw [Rect.contains_iff, Rect.bottom, g.height_cell]
    unfold Rect.right
    omega
  have hin := hg.contains_inner hb hlast
  rw [hg.inner_eq, Rect.contains_iff] at hin
  unfold Rect.inner Rect.right at *
  dsimp only at hin
  omega

/-- A plain text is drawn in the cell of a button as its plate says. -/
theorem drawButton_cell {g : Grid} (hg : g.Divides layout wired area) {b : Button}
    (hb : g.Has wired b) {label : List Char} (hlabel : Plain (bracketed label)) {p : Plate}
    (htext : p.text = bracketed label) {top : Nat}
    (hcell : g.cell b = ⟨area.inner.x + p.column, area.inner.y + top, p.room, g.height⟩)
    (hline : p.line = top + g.height / 2) (style : Style) :
    drawButton area (g.cell b) label style =
      if p.Shown then
        inkRow (area.inner.x + p.start) (area.inner.y + p.line) (p.text.map (charInk style))
      else [] := by
  have hright : (bracketed label).length ≤ (g.cell b).width → (g.cell b).right ≤ area.right :=
    fun hroom => right_le_of_has hg hb (Nat.lt_of_lt_of_le (Nat.succ_pos _) hroom)
  rw [drawButton_of_plain hlabel hright, hcell, ← htext, hline]
  unfold Plate.Shown Plate.start
  simp only [Nat.add_assoc]
  rfl

include hlayout hplain hw hh in
/-- What is drawn for a button is the text of its plate, if there is room for it. -/
theorem strokesOf_eq (pressed : Option Button) (b : Button) :
    strokesOf layout wired pressed area b =
      match plate? layout wired area b with
      | none => []
      | some p =>
        if p.Shown then
          inkRow (area.inner.x + p.start) (area.inner.y + p.line)
            (p.text.map (charInk (buttonStyle pressed b)))
        else [] := by
  have hg := of?_eq_some hw hh
  have hdiv := Grid.divides_of_of? hg
  unfold strokesOf plate?
  rw [hg]
  -- a key is drawn in the cell of its own row and column, which its index tells as well
  rcases b with i | control
  · dsimp only
    rw [hlayout.key?_eq]
    cases hlabel : layout.labels[i]? with
    | none => rfl
    | some label =>
      have hi : i < layout.rows * layout.cols := by
        rw [← hlayout.keyCount_eq]
        exact Layout.lt_keyCount_of_label hlabel
      exact drawButton_cell hdiv (b := .key i) hi (hplain label (List.mem_of_getElem? hlabel)) rfl
        rfl rfl _
  · show drawControl area _ wired pressed control = _
    unfold drawControl
    dsimp only
    by_cases hwired : wired.permits (.ofControl control) = true
    · rw [if_pos hwired, if_pos hwired]
      have hplate := plain_controlLabel control
      cases control with
      | clear => exact drawButton_cell hdiv (b := .control .clear) hwired hplate rfl rfl rfl _
      | backspace => exact drawButton_cell hdiv (b := .control .backspace) hwired hplate rfl rfl rfl _
    · rw [if_neg hwired, if_neg hwired]

include hlayout hw hh in
/-- A text stands on the points of its button. -/
theorem hitTest_of_on {b : Button} {p : Plate} (hp : plate? layout wired area b = some p) {x y : Nat}
    (hon : p.On x y) :
    hitTest layout wired area (area.inner.x + x) (area.inner.y + y) = some b := by
  obtain ⟨hshown, hstart, hend, rfl⟩ := hon
  unfold Plate.Shown at hshown
  unfold Plate.start at hstart hend
  -- the middle line of a cell is one of its lines, however few they are
  have hhalf : keyHeight layout wired area / 2 < keyHeight layout wired area :=
    Nat.div_lt_self (Nat.pos_of_ne_zero hh) (by decide)
  rw [hitTest_eq_some_iff_covers hw hh hlayout]
  unfold plate? at hp
  unfold Covers Rect.inner
  rcases b with i | control
  · obtain ⟨label, hlabel, rfl⟩ := Option.map_eq_some_iff.mp hp
    simp only [Nat.add_mul, Nat.one_mul] at hshown hstart hend ⊢
    refine ⟨Layout.lt_keyCount_of_label hlabel, ⟨?_, ?_⟩, ?_, ?_⟩
    all_goals omega
  · obtain ⟨hwired, hp⟩ := Option.ite_none_right_eq_some.mp hp
    obtain rfl := Option.some.inj hp
    -- each half holds its text, and the two halves are all there is
    cases control with
    | clear =>
      simp only [Nat.add_mul, Nat.one_mul] at hshown hstart hend ⊢
      refine ⟨hwired, ⟨?_, ?_⟩, ?_, ?_⟩
      all_goals omega
    | backspace =>
      simp only [Nat.add_mul, Nat.one_mul] at hshown hstart hend ⊢
      refine ⟨hwired, ⟨?_, ?_⟩, ?_, ?_⟩
      all_goals omega

/-- A point of a button is inside the border. -/
theorem inner_contains_of_hitTest {b : Button} {x y : Nat}
    (h : hitTest layout wired area x y = some b) : area.inner.contains x y = true := by
  obtain ⟨hleft, hright, htop, hbottom⟩ := inside_of_hitTest h
  rw [Rect.contains_iff]
  unfold Rect.right Rect.bottom Rect.inner at *
  dsimp only
  omega

/-- The buttons of a pad are different from each other. -/
theorem nodup_buttons (layout : Layout) : layout.buttons.Nodup := by
  unfold Layout.buttons
  -- keys differ by their indices, and no key is a control
  refine List.nodup_append.mpr ⟨?keys, by decide, ?apart⟩
  case keys =>
    exact List.nodup_range.map fun i j hij => Button.key.inj hij
  case apart =>
    intro b hb control hcontrol
    obtain ⟨i, -, rfl⟩ := List.mem_map.mp hb
    rintro rfl
    simp at hcontrol

/-- A button with a text is one of the pad. -/
theorem mem_buttons_of_plate? {b : Button} {p : Plate} (hp : plate? layout wired area b = some p) :
    b ∈ layout.buttons := by
  unfold Layout.buttons
  rw [List.mem_append]
  rcases b with i | control
  · obtain ⟨label, hlabel, -⟩ := Option.map_eq_some_iff.mp hp
    have hi := Layout.lt_keyCount_of_label hlabel
    exact .inl (List.mem_map.mpr ⟨i, List.mem_range.mpr hi, rfl⟩)
  · cases control with
    | clear => exact .inr List.mem_cons_self
    | backspace => exact .inr (List.mem_cons_of_mem _ List.mem_cons_self)

/-- Where a key has no room, only the border is drawn. -/
theorem drawKeypad_of_no_room (hno : keyWidth layout area = 0 ∨ keyHeight layout wired area = 0)
    (pressed : Option Button) : drawKeypad area layout wired pressed area =
      panel { foreground := some .cyan } " Keypad " area := by
  have hgrid : Grid.of? layout wired area = none := if_pos hno
  unfold drawKeypad
  rw [hgrid]
  exact List.append_nil _

section

include hlayout hplain hw hh

/-- What is drawn for a button is its text. -/
theorem exists_on_of_mem_strokesOf {pressed : Option Button} {b : Button} {s : Stroke}
    (hs : s ∈ strokesOf layout wired pressed area b) :
    ∃ p x y, plate? layout wired area b = some p ∧ p.On x y ∧ s.x = area.inner.x + x ∧
      s.y = area.inner.y + y := by
  rw [strokesOf_eq hlayout hplain hw hh] at hs
  cases hp : plate? layout wired area b with
  | none =>
    rw [hp] at hs
    exact absurd hs List.not_mem_nil
  | some p =>
    rw [hp] at hs
    dsimp only at hs
    split at hs
    case isFalse => exact absurd hs List.not_mem_nil
    case isTrue hshown =>
      -- the line is that of the plate, and the column is one of the text
      obtain ⟨hy, hleft, hright⟩ := bounds_of_mem_inkRow hs
      rw [List.length_map] at hright
      refine ⟨p, s.x - area.inner.x, p.line, rfl, ⟨hshown, ?_, ?_, rfl⟩, ?_, hy⟩
      all_goals omega

/-- Where the text of a button is not seen, nothing is drawn for the button. -/
theorem strokesOn_strokesOf_eq_nil {pressed : Option Button} {b : Button} {x y : Nat}
    (hoff : ∀ p, plate? layout wired area b = some p → ¬p.On x y) :
    strokesOn (strokesOf layout wired pressed area b) (area.inner.x + x) (area.inner.y + y) =
      [] := by
  rw [strokesOn_eq_nil_iff]
  intro s hs hx hy
  obtain ⟨p, x', y', hp, hon, hx', hy'⟩ := exists_on_of_mem_strokesOf hlayout hplain hw hh hs
  obtain rfl : x' = x := by omega
  obtain rfl : y' = y := by omega
  exact hoff p hp hon

/-- Where the text of a button is seen, the keypad is drawn by this text alone. -/
theorem strokesOn_drawKeypad_of_on {pressed : Option Button} {b : Button} {p : Plate}
    (hp : plate? layout wired area b = some p) {x y : Nat} (hon : p.On x y) :
    strokesOn (drawKeypad area layout wired pressed area) (area.inner.x + x) (area.inner.y + y) =
      strokesOn (inkRow (area.inner.x + p.start) (area.inner.y + p.line)
        (p.text.map (charInk (buttonStyle pressed b)))) (area.inner.x + x) (area.inner.y + y) := by
  have hhit := hitTest_of_on hlayout hw hh hp hon
  have hin : area.inner.contains (area.inner.x + x) (area.inner.y + y) = true :=
    inner_contains_of_hitTest hhit
  have hothers : ∀ other ∈ layout.buttons, other ≠ b →
      strokesOn (strokesOf layout wired pressed area other) (area.inner.x + x)
        (area.inner.y + y) = [] := by
    intro other _ hne
    refine strokesOn_strokesOf_eq_nil hlayout hplain hw hh fun p' hp' hon' => hne ?_
    -- a point belongs to one button only
    have hhit' := hitTest_of_on hlayout hw hh hp' hon'
    rw [hhit] at hhit'
    exact (Option.some.inj hhit').symm
  rw [drawKeypad_eq, strokesOn_append, strokesOn_panel_inside hin,
    strokesOn_flatMap_of_unique (nodup_buttons layout) (mem_buttons_of_plate? hp) hothers,
    strokesOf_eq hlayout hplain hw hh, hp, List.nil_append]
  dsimp only
  rw [if_pos hon.1]

/-- Where no text is seen, nothing is drawn inside the border. -/
theorem strokesOn_drawKeypad_eq_nil {pressed : Option Button} {x y : Nat}
    (hx : x < area.inner.width) (hy : y < area.inner.height)
    (hoff : ∀ b p, plate? layout wired area b = some p → ¬p.On x y) :
    strokesOn (drawKeypad area layout wired pressed area) (area.inner.x + x) (area.inner.y + y) =
      [] := by
  have hin := Rect.contains_corner_iff.mpr ⟨hx, hy⟩
  rw [drawKeypad_eq, strokesOn_append, strokesOn_panel_inside hin, List.nil_append]
  unfold strokesOn
  rw [List.filter_flatMap, List.flatMap_eq_nil_iff]
  exact fun b _ => strokesOn_strokesOf_eq_nil hlayout hplain hw hh (hoff b)

end

include hlayout hplain in
/-- A keypad is drawn on its rectangle only. -/
theorem contains_of_mem_drawKeypad {pressed : Option Button} {s : Stroke}
    (hs : s ∈ drawKeypad area layout wired pressed area) : area.contains s.x s.y = true := by
  by_cases hno : keyWidth layout area = 0 ∨ keyHeight layout wired area = 0
  · -- only the border is there
    rw [drawKeypad_of_no_room hno] at hs
    exact contains_of_mem_panel hs
  · obtain ⟨hw, hh⟩ := not_or.mp hno
    rw [drawKeypad_eq] at hs
    rcases List.mem_append.mp hs with hframe | hbutton
    · exact contains_of_mem_panel hframe
    · obtain ⟨b, -, hb⟩ := List.mem_flatMap.mp hbutton
      obtain ⟨p, x, y, hp, hon, hx, hy⟩ := exists_on_of_mem_strokesOf hlayout hplain hw hh hb
      have hinside := inside_of_hitTest (hitTest_of_on hlayout hw hh hp hon)
      rw [Rect.contains_iff, hx, hy]
      omega

end

/-- The brackets of a button keep the text plain. -/
theorem plain_bracketed_of_printable {label : List Char} (h : ∀ c ∈ label, AsciiPrintable c) :
    Plain (bracketed label) := by
  refine plain_of_printable fun c hc => ?_
  unfold bracketed at hc
  rw [List.mem_cons, List.mem_append, List.mem_singleton] at hc
  rcases hc with rfl | hc | rfl
  · decide
  · exact h c hc
  · decide

/-- **A keypad shows its buttons, and nothing else.** In a rectangle that ends before the last
coordinate, a keypad with labels of printable characters of ASCII is drawn without a fault, and no
stroke is outside the rectangle. Where a key has no room the inside of the border is blank. Where it
has room, the text of a button is seen in the look of the button if there is room for it, and if not,
all points of the button are blank; and so is every other place. Black on yellow and bold is the
button that was pressed last, and no other. -/
theorem keypad_shows_its_buttons {rows : List (List String)} {layout : Layout}
    (h : Layout.ofRows rows = .ok layout) (hlabels : layout.Printable) (wired : Controls)
    (pressed : Option Button) {area : Rect} (hfits : area.Fits) :
    ∃ strokes, Word.drawKeypad area layout wired pressed area = .ok strokes ∧
      (∀ s ∈ strokes, area.contains s.x s.y = true) ∧
      let seen := (Screen.mk area strokes).cell? area.inner
      (keyWidth layout area = 0 ∨ keyHeight layout wired area = 0 →
        ∀ x y, x < area.width - 2 → y < area.height - 2 → seen x y = some {}) ∧
      (keyWidth layout area ≠ 0 → keyHeight layout wired area ≠ 0 →
        (∀ b p, plate? layout wired area b = some p → p.Shown → ∀ i c, p.text[i]? = some c →
          seen (p.start + i) p.line = some ⟨[c], lookOf pressed b⟩) ∧
        (∀ b p, plate? layout wired area b = some p → ¬p.Shown → ∀ x y,
          Covers layout wired area b (area.x + 1 + x) (area.y + 1 + y) → seen x y = some {}) ∧
        ∀ x y, x < area.width - 2 → y < area.height - 2 →
          (∀ b p, plate? layout wired area b = some p → ¬p.On x y) → seen x y = some {}) ∧
      ∀ b, lookOf pressed b = ⟨.black, .yellow, true⟩ ↔ pressed = some b := by
  have hlayout := Layout.isGrid_of_ofRows h
  have hplain : ∀ label ∈ layout.labels, Plain (bracketed label.toList) := fun label hlabel =>
    plain_bracketed_of_printable (hlabels label hlabel)
  refine ⟨drawKeypad area layout wired pressed area,
    Word.drawKeypad_eq hlayout hfits area wired pressed,
    fun s hs => contains_of_mem_drawKeypad hlayout hplain hs, ?_⟩
  intro seen
  -- what is seen inside the border is told by the strokes there
  have hseen : ∀ x y, x < area.width - 2 → y < area.height - 2 → seen x y =
      some (cellAt (drawKeypad area layout wired pressed area) (area.inner.x + x)
        (area.inner.y + y)) := fun x y hx hy =>
    Screen.cell?_eq (Rect.inner_within (Nat.zero_lt_of_lt hx) (Nat.zero_lt_of_lt hy)) hx hy
  refine ⟨?small, fun hw hh => ?_, fun b => lookOf_eq_iff⟩
  case small =>
    intro hno x y hx hy
    rw [hseen x y hx hy, drawKeypad_of_no_room hno,
      cellAt_of_strokesOn_eq_nil (strokesOn_panel_inside (Rect.contains_corner_iff.mpr ⟨hx, hy⟩))]
  have hblank : ∀ x y, x < area.width - 2 → y < area.height - 2 →
      (∀ b p, plate? layout wired area b = some p → ¬p.On x y) → seen x y = some {} := by
    intro x y hx hy hoff
    rw [hseen x y hx hy, cellAt_of_strokesOn_eq_nil
      (strokesOn_drawKeypad_eq_nil hlayout hplain hw hh hx hy hoff)]
  refine ⟨?shown, ?hidden, hblank⟩
  case shown =>
    intro b p hp hshown i c hc
    obtain ⟨hi, -⟩ := List.getElem?_eq_some_iff.mp hc
    have hon : p.On (p.start + i) p.line :=
      ⟨hshown, Nat.le_add_right _ _, Nat.add_lt_add_left hi _, rfl⟩
    obtain ⟨hx, hy⟩ := Rect.contains_corner_iff.mp
      (inner_contains_of_hitTest (hitTest_of_on hlayout hw hh hp hon))
    have hink : (p.text.map (charInk (buttonStyle pressed b)))[i]? =
        some (charInk (buttonStyle pressed b) c) := by
      rw [List.getElem?_map, hc]
      rfl
    rw [hseen _ _ hx hy, cellAt_congr (strokesOn_drawKeypad_of_on hlayout hplain hw hh hp hon),
      ← Nat.add_assoc, cellAt_inkRow hink, ← apply_buttonStyle]
    rfl
  case hidden =>
    intro b p hp hhidden x y hcovers
    have hhit := (hitTest_eq_some_iff_covers hw hh hlayout b _ _).mpr hcovers
    obtain ⟨hx, hy⟩ := Rect.contains_corner_iff.mp (inner_contains_of_hitTest hhit)
    refine hblank x y hx hy fun b' p' hp' hon => ?_
    -- the text of another button does not stand here, and that of this one is not seen
    have hhit' := hitTest_of_on hlayout hw hh hp' hon
    obtain rfl : b = b' := Option.some.inj (hhit.symm.trans hhit')
    obtain rfl : p = p' := Option.some.inj (hp.symm.trans hp')
    exact hhidden hon.1

/-- A pad with three columns for a key, at some distance from the origin: a text of three characters
fills its columns, one of four is not seen, and the backspace stands out. -/
theorem keypad_shows_its_buttons_narrow :
    ∃ strokes, Word.drawKeypad ⟨2, 1, 11, 12⟩ .satoshi .all (some (.control .backspace))
        ⟨2, 1, 11, 12⟩ = .ok strokes ∧
      let seen := (Screen.mk ⟨2, 1, 11, 12⟩ strokes).cell? ⟨3, 2, 9, 10⟩
      seen 4 7 = some ⟨['0'], ⟨.white, .reset, false⟩⟩ ∧ seen 1 7 = some {} ∧
        seen 6 9 = some ⟨['⌫'], ⟨.black, .yellow, true⟩⟩ := by
  have hl : Layout.ofRows Layout.satoshiRows = .ok .satoshi := rfl
  have hfits : (⟨2, 1, 11, 12⟩ : Rect).Fits := by
    unfold Rect.Fits
    decide
  obtain ⟨strokes, hdraw, -, -, hroom, -⟩ :=
    keypad_shows_its_buttons hl Layout.printable_satoshi .all (some (.control .backspace)) hfits
  obtain ⟨hshown, hhidden, -⟩ := hroom (by decide) (by decide)
  refine ⟨strokes, hdraw, ?_, ?_, ?_⟩
  · exact hshown (.key 10) ⟨['[', '0', ']'], 3, 3, 7⟩ rfl (by decide) 1 '0' rfl
  · refine hhidden (.key 9) ⟨['[', '0', '0', ']'], 0, 3, 7⟩ rfl (by decide) 1 7 ?_
    exact ⟨by decide, ⟨by decide, by decide⟩, by decide, by decide⟩
  · exact hshown (.control .backspace) ⟨['[', '⌫', ']'], 4, 5, 9⟩ rfl (by decide) 1 '⌫' rfl

end AmountPad.Terminal
