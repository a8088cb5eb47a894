import Mathlib
import AmountPad.Proofs.Terminal.Keypad
import AmountPad.Proofs.Terminal.Moves
import AmountPad.Proofs.Terminal.Writing
import AmountPad.Terminal.Display

/-!
# What is seen of the amount

The display is one line in a panel, at the right end of which the amount and its unit stand. Nothing
else is drawn there. Where the line is too narrow its text is cut off, and it is the end of the text
that is cut off: what a user enters last is not seen, and neither is the unit.

* `displayArea` — the part of a screen where the amount is written;
* `shown`, `shownCells` — what there is to be seen of an amount.

Main results:

* `printable_play` — what is entered by printable labels is printable;
* `strokesOn_draw` — the display is drawn by the line of the amount alone;
* `display_shows_front` — the cells of the display, for every run and every screen;
* `display_loses_last_digits` — a screen on which the last digits are not seen.
-/

namespace AmountPad

open Text (AsciiPrintable)

/-! ## What is entered -/

/-- An action enters no character but those of its label. -/
theorem mem_enter {wired : Controls} {chars : List Char} {action : Action} {c : Char}
    (h : c ∈ enter wired chars action) :
    c ∈ chars ∨ ∃ label, action = .append label ∧ c ∈ label.toList := by
  cases action with
  | append label =>
    rcases List.mem_append.mp h with hold | hnew
    · exact .inl hold
    · exact .inr ⟨label, rfl, hnew⟩
  | clear =>
    simp only [enter] at h
    split at h
    · exact absurd h List.not_mem_nil
    · exact .inl h
  | backspace =>
    -- a backspace takes the last character away and adds none
    simp only [enter] at h
    split at h
    · exact .inl (List.mem_of_mem_dropLast h)
    · exact .inl h

/-- All that is entered by a list of actions is in their labels. -/
theorem exists_label_of_mem_entered {wired : Controls} {actions : List Action} {c : Char}
    (h : c ∈ entered wired actions) : ∃ label, Action.append label ∈ actions ∧ c ∈ label.toList := by
  induction actions using List.reverseRecOn with
  | nil => exact absurd h List.not_mem_nil
  | append_singleton actions action ih =>
    unfold entered at h ih
    rw [List.foldl_concat] at h
    rcases mem_enter h with hold | ⟨label, rfl, hc⟩
    · obtain ⟨label, hlabel, hc⟩ := ih hold
      exact ⟨label, List.mem_append_left _ hlabel, hc⟩
    · exact ⟨label, List.mem_append_right _ List.mem_cons_self, hc⟩

namespace Terminal

namespace App

/-- A label that a move appends is one of the layout, or one that was asked for as such. -/
theorem Move.label_of_asks? {layout : Layout} {m : Move} {label : String}
    (h : m.asks? layout = some (.append label)) :
    label ∈ layout.labels ∨ m = .apply (.append label) := by
  -- typed texts ask for nothing but labels
  have hasks : ∀ text, asksFor? layout text = some (.append label) → label ∈ layout.labels := by
    intro text htext
    obtain ⟨hmem, heq⟩ := Option.ite_none_right_eq_some.mp htext
    obtain rfl := Action.append.inj (Option.some.inj heq)
    exact hmem
  cases m with
  | press text => exact .inl (hasks text h)
  | click b =>
    cases b with
    | key index =>
      obtain ⟨text, htext, heq⟩ := Option.map_eq_some_iff.mp h
      obtain rfl := Action.append.inj heq
      exact .inl (List.mem_of_getElem? htext)
    | control control => cases control <;> cases h
  | apply action =>
    obtain rfl := Option.some.inj h
    exact .inr rfl
  | command c =>
    rcases c with _ | c
    · cases h
    · cases c with
      | insert c => exact .inl (hasks c.toString h)
      | backspace => cases h
      | clear => cases h
      | quit => cases h
  | leave => cases h
  | reset => cases h

/-- What is entered by printable labels is printable. -/
theorem printable_play {layout : Layout} (hlabels : layout.Printable) {wired : Controls}
    {moves : List Move}
    (hmoves : ∀ label, Move.apply (.append label) ∈ moves → ∀ c ∈ label.toList, AsciiPrintable c) :
    ∀ c ∈ ((fresh layout wired).play moves).amount.text.toList, AsciiPrintable c := by
  intro c hc
  rw [(play_accords layout wired moves).entered_eq] at hc
  obtain ⟨label, hlabel, hc⟩ := exists_label_of_mem_entered hc
  -- the label was appended by one of the moves since the last reset
  obtain ⟨m, hm, hruns⟩ := List.mem_filterMap.mp hlabel
  have hmem : m ∈ moves := (List.rtakeWhile_suffix _ moves).subset hm
  rcases Move.label_of_asks? (Option.filter_eq_some_iff.mp hruns).1 with hkey | rfl
  · exact hlabels label hkey c hc
  · exact hmoves label hmem c hc

end App

/-! ## The line of the display -/

/-- What there is to be seen of an amount: its text, or a zero for an empty one, and the unit. -/
def shown (a : Amount) : List Char :=
  (if a.isEmpty then ['0'] else a.text.toList) ++ [' ', 's', 'a', 't', 's']

/-- The cells of this text: an amount is bold and green, the zero for an empty one is grey, and the
unit is plain. -/
def shownCells (a : Amount) : List Cell :=
  (if a.isEmpty then [⟨['0'], ⟨.darkGray, .reset, false⟩⟩]
    else a.text.toList.map fun c => ⟨[c], ⟨.green, .reset, true⟩⟩) ++
  [' ', 's', 'a', 't', 's'].map fun c => ⟨[c], {}⟩

/-- The part of a screen where the amount is written. -/
def displayArea (screen : Rect) : Rect := (Sections.of screen).amount.inner

theorem symbols_shownCells (a : Amount) : (shownCells a).flatMap Cell.symbol = shown a := by
  unfold shownCells shown
  by_cases h : a.isEmpty = true
  · rw [if_pos h, if_pos h]
    rfl
  · rw [if_neg h, if_neg h]
    simp [List.flatMap_append, List.flatMap_map]

theorem length_shownCells (a : Amount) : (shownCells a).length = (shown a).length := by
  unfold shownCells shown
  by_cases h : a.isEmpty = true
  · rw [if_pos h, if_pos h]
    rfl
  · rw [if_neg h, if_neg h]
    simp

/-- The inks of the line make these cells. -/
theorem apply_lineInks (a : Amount) :
    (lineInks (amountSpans a)).map (fun ink => ink.apply {}) = shownCells a := by
  unfold lineInks amountSpans shownCells
  by_cases h : a.isEmpty = true
  · rw [if_pos h, if_pos h]
    rfl
  · rw [if_neg h, if_neg h]
    simp [charInk, Ink.apply, Style.apply]

theorem plain_of_mem_amountSpans {a : Amount} (h : ∀ c ∈ a.text.toList, AsciiPrintable c) :
    ∀ span ∈ amountSpans a, Plain span.text := by
  intro span hspan
  refine plain_of_printable ?_
  unfold amountSpans at hspan
  dsimp only at hspan
  split at hspan
  all_goals
    simp only [List.mem_cons, List.not_mem_nil, or_false] at hspan
    rcases hspan with rfl | rfl
  · exact Text.printable_of_all (by decide)
  · exact Text.printable_of_all (by decide)
  · exact h
  · exact Text.printable_of_all (by decide)

/-- A display with a line and a column is the third line of its screen, without two columns at each
end; the keypad and the help are below it. -/
theorem displayArea_eq {screen : Rect} (hwidth : 0 < (displayArea screen).width)
    (hheight : 0 < (displayArea screen).height) :
    displayArea screen = ⟨screen.x + 2, screen.y + 2, screen.width - 4, 1⟩ ∧
      4 < screen.width ∧ 4 < screen.height ∧
      screen.y + 4 ≤ (Sections.of screen).keypad.y ∧ screen.y + 4 ≤ (Sections.of screen).help.y := by
  unfold displayArea Sections.of Sections.heights Rect.shrink at *
  -- a screen without room for a margin has no display, and neither has one of a few lines, all of
  -- which the keypad takes
  by_cases hsmall : screen.width < 2 ∨ screen.height < 2
  · rw [if_pos hsmall] at hwidth
    exact absurd hwidth (by decide)
  · rw [if_neg hsmall] at *
    unfold Rect.inner at *
    dsimp only at *
    refine ⟨?_, ?_, ?_, ?_, ?_⟩
    · rw [Rect.mk.injEq]
      omega
    all_goals omega

/-! ## What is drawn beside it -/

/-- A keypad is drawn below the upper edge of its rectangle. -/
theorem y_le_of_mem_drawKeypad {screen area : Rect} {layout : Layout} {wired : Controls}
    {pressed : Option Button} {s : Stroke} (h : s ∈ drawKeypad screen layout wired pressed area) :
    area.y ≤ s.y := by
  unfold drawKeypad at h
  rcases List.mem_append.mp h with hframe | hbuttons
  · exact (Rect.contains_iff.mp (contains_of_mem_panel hframe)).2.2.1
  · cases hg : Grid.of? layout wired area with
    | none =>
      rw [hg] at hbuttons
      exact absurd hbuttons List.not_mem_nil
    | some g =>
      have hinner : g.inner.y = area.y + 1 := by
        rw [(Grid.divides_of_of? hg).inner_eq]
        rfl
      -- a text is written in the middle line of a cell, and all cells are below the border
      have hcontrol : ∀ control, s ∈ drawControl screen g wired pressed control → area.y ≤ s.y := by
        intro control hs
        unfold drawControl at hs
        split at hs
        · obtain ⟨-, hy, -⟩ := bounds_of_mem_drawButton hs
          cases control
          · simp only [Grid.controlCell] at hy
            omega
          · simp only [Grid.controlCell] at hy
            omega
        · exact absurd hs List.not_mem_nil
      rw [hg] at hbuttons
      unfold drawButtons at hbuttons
      rw [List.mem_append, List.mem_append] at hbuttons
      rcases hbuttons with (hkey | hclear) | hbackspace
      · obtain ⟨strokes, hstrokes, hs⟩ := List.mem_flatten.mp hkey
        obtain ⟨i, hi, rfl⟩ := List.mem_mapIdx.mp hstrokes
        obtain ⟨-, hy, -⟩ := bounds_of_mem_drawButton hs
        unfold Grid.keyCell at hy
        dsimp only at hy
        omega
      · exact hcontrol .clear hclear
      · exact hcontrol .backspace hbackspace

/-- The display is drawn by the line of the amount alone. -/
theorem strokesOn_draw (app : App) {screen : Rect} {x y : Nat}
    (hin : (displayArea screen).contains x y = true) :
    strokesOn (app.draw screen).strokes x y =
      strokesOn (writeLine .right (amountSpans app.amount) (displayArea screen)) x y := by
  obtain ⟨hleft, hright, htop, hbottom⟩ := Rect.contains_iff.mp hin
  unfold Rect.right at hright
  unfold Rect.bottom at hbottom
  have hsome : 0 < (displayArea screen).width ∧ 0 < (displayArea screen).height := by omega
  obtain ⟨harea, hwidth, hheight, hkeypad, hhelp⟩ := displayArea_eq hsome.1 hsome.2
  rw [harea] at hleft hright htop hbottom
  dsimp only at hleft hright htop hbottom
  -- the display is inside the outer border, and above the keypad and the help
  have hscreen : screen.inner.contains x y = true := by
    rw [Rect.contains_iff]
    unfold Rect.right Rect.bottom Rect.inner
    dsimp only
    omega
  have hbelow : strokesOn (drawKeypad screen app.layout app.controls app.pressed
      (Sections.of screen).keypad) x y = [] := by
    rw [strokesOn_eq_nil_iff]
    intro s hs _ hy
    have hle := y_le_of_mem_drawKeypad hs
    omega
  have hlast : strokesOn (drawHelp (Sections.of screen).help) x y = [] := by
    rw [strokesOn_eq_nil_iff]
    intro s hs _ hy
    have heq := y_of_mem_writeLine hs
    omega
  unfold App.draw drawAmount
  dsimp only
  rw [strokesOn_append, strokesOn_append, strokesOn_append, strokesOn_append,
    strokesOn_panel_inside hscreen, strokesOn_panel_inside hin, hbelow, hlast, List.nil_append,
    List.nil_append, List.append_nil, List.append_nil]
  rfl

/-- The line of a display of plain texts, cell by cell. -/
theorem window_draw (app : App) (hplain : ∀ span ∈ amountSpans app.amount, Plain span.text)
    {screen : Rect} (hwidth : 0 < (displayArea screen).width)
    (hheight : 0 < (displayArea screen).height) :
    (app.draw screen).window (displayArea screen) =
      [List.replicate ((displayArea screen).width - (shownCells app.amount).length) ({} : Cell) ++
        (shownCells app.amount).take (displayArea screen).width] := by
  obtain ⟨harea, hcolumns, hlines, -⟩ := displayArea_eq hwidth hheight
  -- the panel has three lines or less, so that one is left inside its border
  have hone : (displayArea screen).height = 1 := by rw [harea]
  have hwithin : (displayArea screen).Within (app.draw screen).area := by
    rw [harea]
    unfold Rect.Within Rect.right Rect.bottom App.draw
    dsimp only
    omega
  -- in every column of the line only the amount is written
  have hcells : ∀ x ∈ List.range' (displayArea screen).x (displayArea screen).width,
      cellAt (app.draw screen).strokes x (displayArea screen).y =
        cellAt (writeLine .right (amountSpans app.amount) (displayArea screen)) x
          (displayArea screen).y := by
    intro x hx
    rw [List.mem_range'_1] at hx
    refine cellAt_congr (strokesOn_draw app (Rect.contains_iff.mpr ⟨hx.1, hx.2, Nat.le_refl _, ?_⟩))
    exact Nat.lt_add_of_pos_right hheight
  rw [Screen.window_eq hwithin, hone, List.range'_one, List.map_singleton,
    List.map_congr_left hcells, writeLine_right_of_plain hplain hwidth hheight]
  generalize (displayArea screen).x = x
  generalize (displayArea screen).y = y
  generalize hw : (displayArea screen).width = width
  have hlength : (lineInks (amountSpans app.amount)).length = (shownCells app.amount).length := by
    rw [← apply_lineInks, List.length_map]
  -- the columns in front of the text and those of the text are all that there are
  have hall : width = (width - (shownCells app.amount).length) +
      ((lineInks (amountSpans app.amount)).take width).length := by
    rw [List.length_take, hlength]
    omega
  have hline := map_cellAt_inkRow x y (width - (shownCells app.amount).length)
    ((lineInks (amountSpans app.amount)).take width)
  rw [← hall, List.map_take, apply_lineInks] at hline
  rw [hlength, hline]

/-- **The display shows the front of the amount.** For every layout with labels of printable
characters of ASCII, all controls, every run of an app that appends no other labels, and every screen
on which the display has a line and a column: there is one line, in which nothing is seen but the
amount, or a zero for an empty one, and the unit behind it. Where this text fits into the line it
stands at the right end. Where it does not, as much of its front is seen as fits. -/
theorem display_shows_front {layout : Layout} (hlabels : layout.Printable) (wired : Controls)
    {moves : List App.Move}
    (hmoves : ∀ label, App.Move.apply (.append label) ∈ moves → ∀ c ∈ label.toList, AsciiPrintable c)
    (screen : Rect) (hwidth : 0 < (displayArea screen).width)
    (hheight : 0 < (displayArea screen).height) :
    let app := (App.fresh layout wired).play moves
    let cells := shownCells app.amount
    let width := (displayArea screen).width
    cells.flatMap Cell.symbol = shown app.amount ∧ cells.length = (shown app.amount).length ∧
      (cells.length ≤ width → (app.draw screen).window (displayArea screen) =
        [List.replicate (width - cells.length) ({} : Cell) ++ cells]) ∧
      (width < cells.length → (app.draw screen).window (displayArea screen) =
        [cells.take width]) := by
  intro app cells width
  have hwindow := window_draw app (plain_of_mem_amountSpans (App.printable_play hlabels hmoves))
    hwidth hheight
  refine ⟨symbols_shownCells app.amount, length_shownCells app.amount, fun hfits => ?_,
    fun hwide => ?_⟩
  · rw [hwindow, List.take_of_length_le hfits]
  · -- where there are too many cells, no column is left in front of them
    have hnone : (displayArea screen).width - (shownCells app.amount).length = 0 :=
      Nat.sub_eq_zero_of_le (Nat.le_of_lt hwide)
    rw [hwindow, hnone, List.replicate_zero, List.nil_append]

/-- An entry of seven digits. -/
def sevenDigits : List App.Move := ["1", "2", "3", "4", "5", "6", "7"].map .press

/-- On a screen of seventeen columns all seven digits are seen, behind a blank; on one of ten columns
the first six of them are. -/
theorem display_shows_front_digits :
    let app := (App.fresh .satoshi .all).play sevenDigits
    (app.draw ⟨0, 0, 17, 14⟩).window (displayArea ⟨0, 0, 17, 14⟩) =
        [List.replicate 1 ({} : Cell) ++ shownCells app.amount] ∧
      (app.draw ⟨0, 0, 10, 14⟩).window (displayArea ⟨0, 0, 10, 14⟩) =
        [(shownCells app.amount).take 6] := by
  have hmoves : ∀ label, App.Move.apply (.append label) ∈ sevenDigits →
      ∀ c ∈ label.toList, AsciiPrintable c := by
    intro label hlabel
    simp [sevenDigits] at hlabel
  intro app
  have hlength : (shownCells app.amount).length = 12 := by decide +kernel
  obtain ⟨-, -, hfits, -⟩ :=
    display_shows_front Layout.printable_satoshi .all hmoves ⟨0, 0, 17, 14⟩ (by decide) (by decide)
  obtain ⟨-, -, -, hwide⟩ :=
    display_shows_front Layout.printable_satoshi .all hmoves ⟨0, 0, 10, 14⟩ (by decide) (by decide)
  have hsix := hwide (by
    rw [hlength]
    decide)
  have hall := hfits (by
    rw [hlength]
    decide)
  rw [hlength] at hall
  exact ⟨hall, hsix⟩

/-- The last digits of an entry are not seen on the narrow screen: of the text that does not fit, the
six characters in front are there, and not the six at the end. -/
theorem display_loses_last_digits :
    let app := (App.fresh .satoshi .all).play sevenDigits
    let seen := ((app.draw ⟨0, 0, 10, 14⟩).window (displayArea ⟨0, 0, 10, 14⟩)).map
      (·.flatMap Cell.symbol)
    (displayArea ⟨0, 0, 10, 14⟩).width = 6 ∧ (displayArea ⟨0, 0, 10, 14⟩).height = 1 ∧
      seen = [['1', '2', '3', '4', '5', '6']] ∧
      (shown app.amount).drop 6 = ['7', ' ', 's', 'a', 't', 's'] ∧
      seen ≠ [(shown app.amount).drop 6] := by
  decide +kernel

end Terminal

end AmountPad
