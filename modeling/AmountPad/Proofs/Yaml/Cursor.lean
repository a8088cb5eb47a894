import Mathlib
import AmountPad.Yaml.Scalar.Gap
import AmountPad.Yaml.Writer

/-!
# Places behind a text

A cursor moves over characters, over runs of characters and over line breaks. Where it comes out can
be told from the characters that it passed: a line break starts a new line, and every other
character takes a column.

* `Mark.past` — the place behind a text;
* `IsTextBreak` — the line breaks that can stand in a text that is written as it is;
* `StartsToken` — what comes behind the white space that follows a scalar.

Main results:

* `Mark.column_past_breaks` — the column on a new line;
* `Cursor.skip_append`, `Cursor.skipWhile_append`, `Cursor.skipBreak_cons` — a cursor moves to the
  place behind what it passed;
* `Gap.scan_blanks`, `Gap.scan_lines` — so does a cursor that passes the gap inside a scalar.
-/

namespace AmountPad.Yaml

open Writer (blanks)

/-! ## Places -/

/-- The place behind a text that starts at a place. -/
def Mark.past (m : Mark) (cs : List Char) : Mark :=
  cs.foldl (fun m c => if isBreak c then ⟨m.index + 1, m.line + 1, 0⟩
    else ⟨m.index + 1, m.line, m.column + 1⟩) m

namespace Mark

/-- To pass two texts is to pass one behind the other. -/
theorem past_append (m : Mark) (cs cs' : List Char) : m.past (cs ++ cs') = (m.past cs).past cs' :=
  List.foldl_append

/-- On one line, every character takes a column. -/
theorem past_of_sameLine (m : Mark) {cs : List Char} (h : ∀ c ∈ cs, isBreak c = false) :
    m.past cs = ⟨m.index + cs.length, m.line, m.column + cs.length⟩ := by
  induction cs generalizing m with
  | nil => rfl
  | cons c cs ih =>
    unfold past
    rw [List.foldl_cons, if_neg (by simp [h c List.mem_cons_self])]
    refine (ih _ fun d hd => h d (List.mem_cons_of_mem _ hd)).trans ?_
    simp only [List.length_cons, Mark.mk.injEq, true_and]
    omega

theorem line_le_past (m : Mark) (cs : List Char) : m.line ≤ (m.past cs).line := by
  induction cs generalizing m with
  | nil => exact Nat.le_refl _
  | cons c cs ih =>
    unfold past
    rw [List.foldl_cons]
    refine Nat.le_trans ?_ (ih _)
    split
    · exact Nat.le_succ _
    · exact Nat.le_refl _

/-- Behind a line break, the line is another one. -/
theorem line_lt_past (m : Mark) {cs : List Char} {b : Char} (hb : isBreak b = true) (hmem : b ∈ cs) :
    m.line < (m.past cs).line := by
  obtain ⟨before, after, rfl⟩ := List.append_of_mem hmem
  have hbefore := line_le_past m before
  have hafter := line_le_past ((m.past before).past [b]) after
  have hstep : ((m.past before).past [b]).line = (m.past before).line + 1 := by
    simp [past, hb]
  rw [past_append, ← List.singleton_append, past_append]
  omega

/-- Behind line breaks, columns are counted anew. -/
theorem column_past_breaks (m : Mark) {b : Char} {more line : List Char}
    (hbreaks : ∀ c ∈ b :: more, isBreak c = true) (hline : ∀ c ∈ line, isBreak c = false) :
    (m.past (b :: (more ++ line))).column = line.length := by
  have hb : (m.past [b]).column = 0 := by simp [past, hbreaks b List.mem_cons_self]
  -- every line break ends the line that the one before it started
  induction more generalizing m b with
  | nil =>
    rw [List.nil_append, ← List.singleton_append, past_append, past_of_sameLine _ hline, hb]
    exact Nat.zero_add _
  | cons c more ih =>
    have hmore : ∀ d ∈ c :: more, isBreak d = true := fun d hd => hbreaks d (List.mem_cons_of_mem b hd)
    have hc : ((m.past [b]).past [c]).column = 0 := by simp [past, hmore c List.mem_cons_self]
    rw [← List.singleton_append, past_append]
    exact ih (m.past [b]) hmore hc

/-- The column on a new line. -/
theorem column_past_line (m : Mark) (cs : List Char) {b : Char} (hb : isBreak b = true)
    {line : List Char} (hline : ∀ c ∈ line, isBreak c = false) :
    (m.past (cs ++ b :: line)).column = line.length := by
  rw [past_append]
  exact column_past_breaks (m.past cs) (fun c hc => (List.mem_singleton.mp hc) ▸ hb) hline

end Mark

/-! ## Blanks -/

theorem isBreak_of_mem_blanks {n : Nat} : ∀ c ∈ blanks n, isBreak c = false := by
  intro c hc
  rw [List.eq_of_mem_replicate hc]
  rfl

theorem length_blanks (n : Nat) : (blanks n).length = n := List.length_replicate

theorem blanks_succ_append (n : Nat) (cs : List Char) :
    blanks (n + 1) ++ cs = blanks n ++ ' ' :: cs := by
  unfold blanks
  rw [List.replicate_succ', List.append_assoc]
  rfl

/-- A text is split where a condition first fails. -/
theorem exists_span (p : Char → Bool) (cs : List Char) :
    ∃ run rest, cs = run ++ rest ∧ (∀ c ∈ run, p c = true) ∧ ∀ c ∈ rest.head?, p c = false := by
  refine ⟨cs.takeWhile p, cs.dropWhile p, List.takeWhile_append_dropWhile.symm,
    fun c hc => List.mem_takeWhile_imp hc, fun c hc => ?_⟩
  have hfails := List.head?_dropWhile_not p cs
  rw [hc] at hfails
  simpa using hfails

/-- The blanks in front of a text, and the text behind them. -/
theorem exists_blanks (cs : List Char) :
    ∃ n rest, cs = blanks n ++ rest ∧ ∀ c ∈ rest.head?, c ≠ ' ' := by
  obtain ⟨run, rest, rfl, hrun, hrest⟩ := exists_span (· == ' ') cs
  have hblanks : run = blanks run.length :=
    List.eq_replicate_iff.mpr ⟨rfl, fun c hc => by simpa using hrun c hc⟩
  exact ⟨run.length, rest, by rw [← hblanks], fun c hc => by simpa using hrest c hc⟩

/-- The line breaks that can stand in a text that is written as it is. A reader keeps them. -/
def IsTextBreak (c : Char) : Prop := c = '\n' ∨ c = '\u2028' ∨ c = '\u2029'

theorem IsTextBreak.isBreak {c : Char} (h : IsTextBreak c) : isBreak c = true := by
  rcases h with rfl | rfl | rfl <;> rfl

/-- A printable line break can stand in a text that is written as it is. -/
theorem isTextBreak_of_isPrintable {c : Char} (hp : Writer.isPrintable c = true)
    (hb : isBreak c = true) : IsTextBreak c := by
  simp only [isBreak, Bool.or_eq_true, beq_iff_eq] at hb
  rcases hb with (((rfl | rfl) | rfl) | rfl) | rfl
  · exact absurd hp (by decide)
  · exact .inl rfl
  · exact absurd hp (by decide)
  · exact .inr (.inl rfl)
  · exact .inr (.inr rfl)

/-- A character that is no white space. -/
def IsInk (c : Char) : Prop := isBlank c = false ∧ isBreak c = false

/-- Whether a text ends or starts with a token, and not with white space or a comment. -/
def StartsToken (cs : List Char) : Prop :=
  ∀ c ∈ cs.head?, isBlank c = false ∧ isBreak c = false ∧ c ≠ '#' ∧ c ≠ '\ufeff'

/-- The blanks in front of a token can be told. -/
theorem blanks_append_inj {k k' : Nat} {rest rest' : List Char} (h : StartsToken rest)
    (h' : StartsToken rest') (heq : blanks k ++ rest = blanks k' ++ rest') :
    k = k' ∧ rest = rest' := by
  -- no token starts with a blank, so neither run of blanks can be the shorter one
  have hfirst {cs : List Char} (hcs : StartsToken cs) : cs.head? ≠ some ' ' := fun hspace =>
    absurd (hcs ' ' hspace).1 (by decide)
  induction k generalizing k' with
  | zero =>
    cases k' with
    | zero => exact ⟨rfl, heq⟩
    | succ k' => exact absurd (congrArg List.head? heq) (hfirst h)
  | succ k ih =>
    cases k' with
    | zero => exact absurd (congrArg List.head? heq).symm (hfirst h')
    | succ k' =>
      obtain ⟨rfl, hrest⟩ := ih (List.cons.inj heq).2
      exact ⟨rfl, hrest⟩

/-! ## Moves of a cursor -/

namespace Cursor

/-- A cursor passes characters of its line. -/
theorem skip_append {cs : List Char} (h : ∀ c ∈ cs, isBreak c = false) (rest : List Char)
    (m : Mark) : (⟨cs ++ rest, m⟩ : Cursor).skip cs.length = ⟨rest, m.past cs⟩ := by
  rw [skip, m.past_of_sameLine h]
  simp

theorem skip_one {c : Char} (h : isBreak c = false) (rest : List Char) (m : Mark) :
    (⟨c :: rest, m⟩ : Cursor).skip 1 = ⟨rest, m.past [c]⟩ := by
  have hline : ∀ d ∈ [c], isBreak d = false := by simpa using h
  exact skip_append hline rest m

/-- A cursor passes the characters that satisfy a condition, up to one that does not. -/
theorem skipWhile_append {p : Char → Bool} {cs : List Char} (h : ∀ c ∈ cs, isBreak c = false)
    (hp : ∀ c ∈ cs, p c = true) {rest : List Char} (hrest : ∀ c ∈ rest.head?, p c = false)
    (m : Mark) : (⟨cs ++ rest, m⟩ : Cursor).skipWhile p = ⟨rest, m.past cs⟩ := by
  have htake : (cs ++ rest).takeWhile p = cs := by
    rw [List.takeWhile_append_of_pos hp]
    cases rest with
    | nil => simp
    | cons c rest => simp [hrest c rfl]
  rw [skipWhile, htake, skip_append h]

/-- A line break of a text is one character, and is passed as such. -/
theorem skipBreak_cons {c : Char} (h : IsTextBreak c) (rest : List Char) (m : Mark) :
    (⟨c :: rest, m⟩ : Cursor).skipBreak = ⟨rest, m.past [c]⟩ := by
  rcases h with rfl | rfl | rfl <;> rfl

/-- A line break of a text contributes itself. -/
theorem breakText_cons {c : Char} (h : IsTextBreak c) (rest : List Char) (m : Mark) :
    (⟨c :: rest, m⟩ : Cursor).breakText = [c] := by
  rcases h with rfl | rfl | rfl <;> rfl

/-- Document markers stand at the start of a line. -/
theorem atMarker_of_column_pos {c : Cursor} (h : 0 < c.mark.column) (x : Char) :
    c.atMarker x = false := by
  rw [atMarker, beq_eq_false_iff_ne.mpr (Nat.ne_of_gt h), Bool.false_and]

end Cursor

/-! ## Gaps inside scalars -/

namespace Gap

/-- Blanks on the line of a scalar stand for themselves; behind a line break they are passed
over. -/
theorem scan_blanks (tabColumn : Option Nat) (g : Gap) (n : Nat) {rest : List Char}
    (hrest : ∀ c ∈ rest.head?, isBlank c = false ∧ isBreak c = false) (m : Mark) {bound : Nat}
    (hb : n ≤ bound) :
    scan tabColumn bound g ⟨Writer.blanks n ++ rest, m⟩ =
      (some (if g.broken then g else { g with blanks := g.blanks ++ Writer.blanks n }),
        ⟨rest, m.past (Writer.blanks n)⟩) := by
  induction n generalizing g m bound with
  | zero =>
    -- what comes next is not white space, and the gap ends whatever the bound is
    have hstop : scan tabColumn bound g ⟨rest, m⟩ = (some g, ⟨rest, m⟩) := by
      cases bound with
      | zero => rfl
      | succ bound =>
        cases rest with
        | nil => rfl
        | cons c rest =>
          obtain ⟨hblank, hbreak⟩ := hrest c rfl
          simp [scan, hblank, hbreak]
    refine hstop.trans ?_
    simp [Writer.blanks, Mark.past]
  | succ n ih =>
    obtain ⟨bound, rfl⟩ := Nat.exists_eq_succ_of_ne_zero (Nat.ne_of_gt (Nat.lt_of_lt_of_le n.succ_pos hb))
    -- a blank is never a tab
    have hbad : isBadTab tabColumn g m.column ' ' = false := by
      cases tabColumn <;> simp [isBadTab]
    have hsplit : Writer.blanks (n + 1) = ' ' :: Writer.blanks n := rfl
    rw [hsplit, List.cons_append, scan]
    simp only [hbad, Cursor.skip_one (show isBreak ' ' = false from rfl)]
    rw [if_pos (show isBlank ' ' = true from rfl), if_neg Bool.false_ne_true,
      ih _ _ (Nat.le_of_succ_le_succ hb)]
    cases hg : g.broken <;> simp [hg, Mark.past]

/-- The gap that line breaks leave. -/
def ofBreaks (b : Char) (more : List Char) : Gap :=
  { firstBreak := [b], moreBreaks := more, broken := true }

/-- Further line breaks are collected. -/
theorem scan_moreBreaks (tabColumn : Option Nat) (b : Char) (before : List Char) {more : List Char}
    (hmore : ∀ c ∈ more, IsTextBreak c) (n : Nat) {rest : List Char}
    (hrest : ∀ c ∈ rest.head?, isBlank c = false ∧ isBreak c = false) (m : Mark) {bound : Nat}
    (hb : more.length + n ≤ bound) :
    scan tabColumn bound (ofBreaks b before) ⟨more ++ (Writer.blanks n ++ rest), m⟩ =
      (some (ofBreaks b (before ++ more)), ⟨rest, m.past (more ++ Writer.blanks n)⟩) := by
  induction more generalizing before m bound with
  | nil =>
    rw [List.nil_append, scan_blanks tabColumn _ n hrest m (by simpa using hb)]
    simp [ofBreaks]
  | cons c more ih =>
    have hc := hmore c List.mem_cons_self
    obtain ⟨bound, rfl⟩ : ∃ k, bound = k + 1 := by
      rw [List.length_cons] at hb
      exact ⟨bound - 1, by omega⟩
    -- a line break is no blank, and is counted with those before
    have hblank : isBlank c = false := by rcases hc with rfl | rfl | rfl <;> rfl
    rw [List.cons_append, scan]
    simp only [hblank, hc.isBreak, Cursor.breakText_cons hc, Cursor.skipBreak_cons hc,
      Bool.false_eq_true, if_false, if_true]
    have hroom : more.length + n ≤ bound := by
      rw [List.length_cons] at hb
      omega
    have hstep := ih (before ++ [c]) (fun d hd => hmore d (List.mem_cons_of_mem _ hd)) (m.past [c])
      hroom
    simpa [ofBreaks, Mark.past] using hstep

/-- The blanks between two words are a gap. -/
theorem scan_spaces (tabColumn : Option Nat) (n : Nat) {rest : List Char}
    (hrest : ∀ c ∈ rest.head?, isBlank c = false ∧ isBreak c = false) (m : Mark) :
    scan tabColumn (Writer.blanks n ++ rest).length {} ⟨Writer.blanks n ++ rest, m⟩ =
      (some { blanks := Writer.blanks n }, ⟨rest, m.past (Writer.blanks n)⟩) := by
  refine scan_blanks tabColumn {} n hrest m ?_
  rw [List.length_append, length_blanks]
  omega

/-- Line breaks, and the indentation of the line behind them, are one gap. -/
theorem scan_lines (tabColumn : Option Nat) {b : Char} {more : List Char}
    (hbreaks : ∀ c ∈ b :: more, IsTextBreak c) (n : Nat) {rest : List Char}
    (hrest : ∀ c ∈ rest.head?, isBlank c = false ∧ isBreak c = false) (m : Mark) :
    scan tabColumn (b :: (more ++ (Writer.blanks n ++ rest))).length {}
        ⟨b :: (more ++ (Writer.blanks n ++ rest)), m⟩ =
      (some (ofBreaks b more), ⟨rest, m.past (b :: (more ++ Writer.blanks n))⟩) := by
  have hbreak := hbreaks b List.mem_cons_self
  have hblank : isBlank b = false := by rcases hbreak with rfl | rfl | rfl <;> rfl
  rw [List.length_cons, scan]
  simp only [hblank, hbreak.isBreak, Cursor.breakText_cons hbreak, Cursor.skipBreak_cons hbreak,
    Bool.false_eq_true, if_false, if_true]
  refine scan_moreBreaks tabColumn b [] (fun c hc => hbreaks c (List.mem_cons_of_mem b hc)) n hrest
    (m.past [b]) ?_
  simp only [List.length_append, length_blanks]
  omega

end Gap

end AmountPad.Yaml
