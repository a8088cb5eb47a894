import Mathlib
import AmountPad.Proofs.Layout.Grid

/-!
# The first flaw of rows of labels

Rows of labels are read only if they make a grid, and rows that do not may be wrong in several ways
at once. Then the first flaw is blamed that the checks come upon, and the checks go row by row: first
the width of a row is held against that of the first row, then its labels are looked at from left to
right, each of them first for being empty and then against all labels in front of it.

* `Layout.Check`, `Layout.checksFrom` — the checks, and the order in which they are made;
* `Layout.Check.finds?` — what one check finds, told from the rows alone;
* `Layout.FirstFlaw` — the flaw that is found behind checks that found none.

Main results:

* `Layout.checkLabels_eq`, `Layout.checkRows_eq` — the labels seen so far are those in front of the
  place that is looked at, so that reading rows is going through their checks;
* `Layout.Flaw.message_inj` — flaws are told apart by their messages;
* `Layout.ofRows_blames_first_flaw` — the rows that are read, the flaw that is blamed for the others,
  and the keys of those that are read.
-/

namespace AmountPad

namespace Layout

/-! ## Checks -/

/-- One check of rows of labels. -/
inductive Check where
  /-- The width of a row against that of the first row. -/
  | width (row : Nat)
  /-- A label against the empty text and against the labels in front of it. -/
  | label (row col : Nat)
  deriving DecidableEq, Repr

/-- The labels in front of a place, row by row. -/
def labelsBefore (rows : List (List String)) (row col : Nat) : List String :=
  (rows.take row).flatten ++ (rows.getD row []).take col

/-- What a check finds. -/
def Check.finds? (rows : List (List String)) : Check → Option Flaw
  | .width row =>
    let count := (rows.getD row []).length
    let expected := (rows.headD []).length
    if count = expected then none else some (.ragged row count expected)
  | .label row col =>
    let label := (rows.getD row []).getD col ""
    if label = "" then some (.emptyLabel row col)
    else if label ∈ labelsBefore rows row col then some (.duplicateLabel label)
    else none

/-- The checks of the rows from index `row` on. The width of a row comes before its labels, and these
go from left to right. -/
def checksFrom (row : Nat) (rows : List (List String)) : List Check :=
  (rows.zipIdx row).flatMap fun (labels, row) =>
    .width row :: (List.range labels.length).map (.label row)

/-- The flaw that a check finds where all checks before it found none. -/
def FirstFlaw (rows : List (List String)) (flaw : Flaw) : Prop :=
  ∃ passed check rest, checksFrom 0 rows = passed ++ check :: rest ∧
    (∀ c ∈ passed, c.finds? rows = none) ∧ check.finds? rows = some flaw

/-- The width of a row is checked first, then its labels, then the rows below. -/
theorem checksFrom_cons (row : Nat) (labels : List String) (rest : List (List String)) :
    checksFrom row (labels :: rest) =
      .width row :: ((List.range labels.length).map (.label row) ++ checksFrom (row + 1) rest) := by
  simp [checksFrom]

/-- The first flaw is what the first check finds that finds any. -/
theorem firstFlaw_iff {rows : List (List String)} {flaw : Flaw} :
    FirstFlaw rows flaw ↔ (checksFrom 0 rows).findSome? (Check.finds? rows) = some flaw := by
  rw [FirstFlaw, List.findSome?_eq_some_iff]
  constructor
  · rintro ⟨passed, check, rest, hchecks, hpassed, hfinds⟩
    exact ⟨passed, check, rest, hchecks, hfinds, hpassed⟩
  · rintro ⟨passed, check, rest, hchecks, hfinds, hpassed⟩
    exact ⟨passed, check, rest, hchecks, hpassed, hfinds⟩

/-! ## Going through the checks -/

section

variable {rows before rest : List (List String)} {seen : List String}

/-- The labels of a row behind those that have passed are read as far as no check of a label finds a
flaw, if the labels seen are all those in front of them. -/
theorem checkLabels_eq {passed labels : List String}
    (hrows : rows = before ++ (passed ++ labels) :: rest)
    (hseen : ∀ l, l ∈ seen ↔ l ∈ before.flatten ++ passed) :
    checkLabels before.length passed.length seen labels =
      ((List.range' passed.length labels.length).findSome? fun col =>
          (Check.label before.length col).finds? rows).elim
        (.ok (labels.reverse ++ seen)) .error := by
  -- induction on the labels that are left; each of them goes over to those that have passed
  induction labels generalizing passed seen with
  | nil => rfl
  | cons label labels ih =>
    have hrow : rows.getD before.length [] = passed ++ label :: labels := by
      rw [hrows]
      simp
    have hbefore : labelsBefore rows before.length passed.length = before.flatten ++ passed := by
      rw [labelsBefore, hrow, hrows]
      simp
    have hfinds : (Check.label before.length passed.length).finds? rows =
        if label = "" then some (.emptyLabel before.length passed.length)
        else if label ∈ seen then some (.duplicateLabel label) else none := by
      simp only [Check.finds?, hrow, hbefore, ← hseen]
      simp
    rw [checkLabels, List.length_cons, List.range'_succ, List.findSome?_cons, hfinds]
    by_cases hempty : label = ""
    · rw [if_pos hempty, if_pos hempty]
      rfl
    rw [if_neg hempty, if_neg hempty]
    by_cases hmem : label ∈ seen
    · rw [if_pos hmem, if_pos hmem]
      rfl
    rw [if_neg hmem, if_neg hmem]
    -- this label has passed, and the next ones are held against it too
    have hseen' : ∀ l, l ∈ label :: seen ↔ l ∈ before.flatten ++ (passed ++ [label]) := by
      intro l
      rw [List.mem_cons, hseen, ← List.append_assoc, List.mem_append (t := [label]),
        List.mem_singleton]
      exact or_comm
    have hnext := ih (by simpa using hrows) hseen'
    simpa using hnext

/-- Rows behind those that have passed are read as far as none of their checks finds a flaw, if the
labels seen are all those of the rows in front of them. -/
theorem checkRows_eq {width : Nat} (hwidth : (rows.headD []).length = width)
    (hrows : rows = before ++ rest) (hseen : ∀ l, l ∈ seen ↔ l ∈ before.flatten) :
    checkRows width before.length seen rest =
      ((checksFrom before.length rest).findSome? (Check.finds? rows)).elim (.ok ()) .error := by
  induction rest generalizing before seen with
  | nil => rfl
  | cons labels rest ih =>
    have hrow : rows.getD before.length [] = labels := by
      rw [hrows]
      simp
    have hfinds : (Check.width before.length).finds? rows =
        if labels.length = width then none
        else some (.ragged before.length labels.length width) := by
      simp only [Check.finds?, hrow, hwidth]
    rw [checkRows, checksFrom_cons, List.findSome?_cons, hfinds]
    by_cases heven : labels.length = width
    case neg =>
      rw [if_pos heven, if_neg heven]
      rfl
    case pos =>
      have hfirst : rows = before ++ ([] ++ labels) :: rest := hrows
      have hlabels : checkLabels before.length 0 seen labels =
          ((List.range' 0 labels.length).findSome? fun col =>
            (Check.label before.length col).finds? rows).elim
              (.ok (labels.reverse ++ seen)) .error :=
        checkLabels_eq hfirst (by simpa using hseen)
      rw [if_neg (not_not_intro heven), if_pos heven, List.findSome?_append, List.findSome?_map,
        List.range_eq_range', hlabels]
      show _ = Option.elim (Option.or (List.findSome? (fun col =>
        (Check.label before.length col).finds? rows) (List.range' 0 labels.length)) _) _ _
      -- one of the labels has a flaw, or the rest of the rows is read behind all of them
      cases List.findSome? (fun col => (Check.label before.length col).finds? rows)
          (List.range' 0 labels.length) with
      | some flaw => rfl
      | none =>
        have hseen' : ∀ l, l ∈ labels.reverse ++ seen ↔ l ∈ (before ++ [labels]).flatten := by
          intro l
          simp [hseen, or_comm]
        have hnext := ih (by simpa using hrows) hseen'
        rw [List.length_append, List.length_singleton] at hnext
        exact hnext

end

/-- Rows are read if none of their checks finds a flaw. -/
theorem ofRows_eq {rows : List (List String)} (hrows : rows ≠ []) (hfirst : rows.head? ≠ some []) :
    ofRows rows = ((checksFrom 0 rows).findSome? (Check.finds? rows)).elim
      (.ok ⟨gridKeys 0 rows, rows.length, (rows.headD []).length⟩) .error := by
  match rows with
  | [] => exact absurd rfl hrows
  | [] :: _ => exact absurd rfl hfirst
  | (label :: labels) :: rest =>
    have hstart : (label :: labels) :: rest = [] ++ (label :: labels) :: rest := rfl
    -- the check starts before any label is seen
    have hcheck : checkRows (label :: labels).length 0 [] ((label :: labels) :: rest) =
        ((checksFrom 0 ((label :: labels) :: rest)).findSome?
          (Check.finds? ((label :: labels) :: rest))).elim (.ok ()) .error :=
      checkRows_eq rfl hstart (by simp)
    unfold ofRows
    dsimp only
    rw [hcheck, List.headD_cons]
    cases (checksFrom 0 ((label :: labels) :: rest)).findSome?
      (Check.finds? ((label :: labels) :: rest)) with
    | none => rfl
    | some flaw => rfl

/-! ## What the messages tell -/

/-- The letter with which the message of a flaw begins. -/
def Flaw.initial : Flaw → Char
  | .noRows => 'l'
  | .emptyRows => 'l'
  | .ragged _ _ _ => 'r'
  | .emptyLabel _ _ => 'k'
  | .duplicateLabel _ => 'd'

theorem Flaw.head?_message (flaw : Flaw) : flaw.message.toList.head? = some flaw.initial := by
  unfold message initial
  cases flaw <;> simp

/-- The message of a flaw tells the flaw, with its place, its numbers and its label. -/
theorem Flaw.message_inj {flaw flaw' : Flaw} (h : flaw.message = flaw'.message) :
    flaw = flaw' := by
  have hinitial : flaw.initial = flaw'.initial := by
    rw [← Option.some.injEq, ← head?_message, ← head?_message, h]
  have hlists := congrArg String.toList h
  unfold message at hlists
  unfold initial at hinitial
  -- messages that begin with the same letter are of one kind, or are the two without a place
  cases flaw with
  | noRows =>
    cases flaw' with
    | noRows => rfl
    | emptyRows => exact absurd h (by decide)
    | _ => cases hinitial
  | emptyRows =>
    cases flaw' with
    | noRows => exact absurd h (by decide)
    | emptyRows => rfl
    | _ => cases hinitial
  | ragged row count expected =>
    cases flaw' with
    | ragged row' count' expected' =>
      simp only [String.toList_append, List.append_assoc] at hlists
      obtain ⟨rfl, hcounts⟩ :=
        numeral_append_inj (by simp) (by simp) (List.append_cancel_left hlists)
      obtain ⟨rfl, hends⟩ :=
        numeral_append_inj (by simp) (by simp) (List.append_cancel_left hcounts)
      have hexpected := String.toList_inj.mp (List.append_cancel_left hends)
      rw [Nat.repr_inj.mp hexpected]
    | _ => cases hinitial
  | emptyLabel row col =>
    cases flaw' with
    | emptyLabel row' col' =>
      simp only [String.toList_append, List.append_assoc] at hlists
      obtain ⟨rfl, hcols⟩ :=
        numeral_append_inj (by simp) (by simp) (List.append_cancel_left hlists)
      obtain ⟨rfl, -⟩ :=
        numeral_append_inj (by simp) (by simp) (List.append_cancel_left hcols)
      rfl
    | _ => cases hinitial
  | duplicateLabel label =>
    cases flaw' with
    | duplicateLabel label' =>
      simp only [String.toList_append, List.append_assoc] at hlists
      have hlabel := List.append_cancel_right (List.append_cancel_left hlists)
      rw [String.toList_inj.mp hlabel]
    | _ => cases hinitial

/-! ## What is read and what is blamed -/

/-- The flaw for which rows are not read. -/
theorem ofRows_eq_error_iff {rows : List (List String)} {flaw : Flaw} :
    ofRows rows = .error flaw ↔
      rows = [] ∧ flaw = .noRows ∨ rows.head? = some [] ∧ flaw = .emptyRows ∨
        rows ≠ [] ∧ rows.head? ≠ some [] ∧ FirstFlaw rows flaw := by
  rcases rows with _ | ⟨first, rest⟩
  · simp [ofRows, eq_comm]
  rcases first with _ | ⟨label, labels⟩
  · simp [ofRows, eq_comm]
  -- with a first row of some width, it is the checks that decide
  have hrows : (label :: labels) :: rest ≠ [] := List.cons_ne_nil _ _
  have hfirst : ((label :: labels) :: rest).head? ≠ some [] := by simp
  rw [ofRows_eq hrows hfirst, firstFlaw_iff]
  cases (checksFrom 0 ((label :: labels) :: rest)).findSome?
    (Check.finds? ((label :: labels) :: rest)) with
  | none => simp
  | some found => simp

/-- Rows make a layout if there are some, the first of them has labels, all are as wide as the first,
and no label is empty or stands twice. -/
theorem exists_rectangular_iff {rows : List (List String)} :
    (∃ width, Rectangular width rows) ↔
      rows ≠ [] ∧ rows.head? ≠ some [] ∧
        (∀ labels ∈ rows, labels.length = (rows.headD []).length) ∧
        "" ∉ rows.flatten ∧ rows.flatten.Nodup := by
  constructor
  · rintro ⟨width, hr⟩
    obtain ⟨first, rest, rfl⟩ := List.exists_cons_of_ne_nil hr.rows_ne_nil
    -- the common width is that of the first row
    have hfirst : first.length = width := hr.even first List.mem_cons_self
    refine ⟨hr.rows_ne_nil, ?_, ?_, hr.no_empty, hr.nodup⟩
    · intro hempty
      have hnil : first = [] := Option.some.inj hempty
      have hpos := hr.width_pos
      rw [← hfirst, hnil] at hpos
      exact absurd hpos (Nat.lt_irrefl 0)
    · intro labels hlabels
      rw [hr.even labels hlabels]
      exact hfirst.symm
  · rintro ⟨hrows, hfirst, heven, hempty, hnodup⟩
    obtain ⟨first, rest, rfl⟩ := List.exists_cons_of_ne_nil hrows
    -- a first row with labels gives the width
    have hpos : 0 < first.length := by
      rw [List.length_pos_iff]
      intro hnil
      exact hfirst (congrArg some hnil)
    exact ⟨first.length, hrows, hpos, heven, hempty, hnodup⟩

/-- **Rows are read exactly if they make a grid, and else their first flaw is blamed.** Rows make a
layout if there are some, the first has labels, all are as wide as the first, and no label is empty
or stands twice. For other rows the text of the failure tells the flaw: that there are no rows, that
the first has no labels, or what is found by the first check that finds anything. No two flaws have
the same text, so that it tells the place, the widths and the label too. The keys of a layout that
was read are the labels row by row, each at the row and the column that its index tells. -/
theorem ofRows_blames_first_flaw (rows : List (List String)) :
    ((∃ layout, ofRows rows = .ok layout) ↔
      rows ≠ [] ∧ rows.head? ≠ some [] ∧
        (∀ labels ∈ rows, labels.length = (rows.headD []).length) ∧
        "" ∉ rows.flatten ∧ rows.flatten.Nodup) ∧
    (∀ flaw, ofRows rows = .error flaw ↔
      rows = [] ∧ flaw = .noRows ∨ rows.head? = some [] ∧ flaw = .emptyRows ∨
        rows ≠ [] ∧ rows.head? ≠ some [] ∧ FirstFlaw rows flaw) ∧
    (∀ failure, build rows = .error failure ↔
      ∃ flaw, ofRows rows = .error flaw ∧ failure = .invalidLayout flaw) ∧
    (∀ flaw, (Failure.invalidLayout flaw).message = "invalid keypad layout: " ++ flaw.message) ∧
    (∀ flaw flaw' : Flaw, flaw.message = flaw'.message → flaw = flaw') ∧
    ∀ layout, ofRows rows = .ok layout →
      layout.rows = rows.length ∧ layout.cols = (rows.headD []).length ∧
        ∀ i, layout.key? i = rows.flatten[i]?.map fun label =>
          .ofLabel label (i / layout.cols) (i % layout.cols) := by
  refine ⟨?read, fun flaw => ofRows_eq_error_iff, ?failure, fun flaw => rfl,
    fun flaw flaw' => Flaw.message_inj, ?keys⟩
  case read =>
    -- rows are read exactly if they are rectangular
    rw [← exists_rectangular_iff]
    constructor
    · rintro ⟨layout, h⟩
      obtain ⟨width, hr, -⟩ := ofRows_eq_ok_iff.mp h
      exact ⟨width, hr⟩
    · rintro ⟨width, hr⟩
      exact ⟨_, ofRows_eq_ok_iff.mpr ⟨width, hr, rfl⟩⟩
  case failure =>
    intro failure
    rw [build]
    cases ofRows rows with
    | error flaw => simp [Except.mapError, eq_comm]
    | ok layout => simp [Except.mapError]
  case keys =>
    intro layout h
    -- the keys of the layout stand as those of a grid, with the labels of the rows
    have hgrid := isGrid_of_ofRows h
    have hlabels := labels_of_ofRows h
    obtain ⟨width, hr, rfl⟩ := ofRows_eq_ok_iff.mp h
    obtain ⟨first, rest, rfl⟩ := List.exists_cons_of_ne_nil hr.rows_ne_nil
    refine ⟨rfl, (hr.even first List.mem_cons_self).symm, fun i => ?_⟩
    rw [hgrid.key?_eq, hlabels]

/-- Of a label that stands twice, a row that is too short and an empty label, the first is blamed. -/
example : (build [["1", "2"], ["3", "1"], ["4"], ["", "5"]]).mapError Failure.message =
    .error "invalid keypad layout: duplicate key label '1'" := by decide

end Layout

end AmountPad
