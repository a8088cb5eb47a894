import Mathlib
import AmountPad.Proofs.Yaml.Cursor
import AmountPad.Yaml.Scalar.Block

/-!
# Literals are read back

A literal is empty lines, lines of text and empty lines again. The header tells the indentation
where the first line does not show it, and what becomes of the line breaks at the end.

* `Block.Lines` — lines of text between the empty ones;
* `Block.headerLine` — a header by what it tells;
* `Block.literal` — a text as a literal.

Main results:

* `Block.scan_empty`, `Block.scan_text` — what is read of a literal, whatever its header tells;
* `Block.exists_lines` — a text is empty lines, lines of text and empty lines again;
* `Block.scan_literal` — a text that fits a literal is read back.
-/

namespace AmountPad.Yaml

open Writer (blanks literalBody)

/-! ## What is written -/

/-- The rest of a line that has begun is written as it is. -/
theorem literalBody_line {indent : Nat} {line : List Char} (h : ∀ c ∈ line, isBreak c = false)
    (rest : List Char) :
    literalBody indent false (line ++ rest) = line ++ literalBody indent false rest := by
  induction line with
  | nil => rfl
  | cons c line ih =>
    have hc : ¬ isBreak c = true := by simp [h c List.mem_cons_self]
    rw [List.cons_append, literalBody, if_neg hc, ih fun d hd => h d (List.mem_cons_of_mem c hd)]
    rfl

/-- Empty lines are written without indentation. -/
theorem literalBody_breaks {indent : Nat} {breaks : List Char} (h : ∀ c ∈ breaks, isBreak c = true)
    (rest : List Char) :
    literalBody indent true (breaks ++ rest) = breaks ++ literalBody indent true rest := by
  induction breaks with
  | nil => rfl
  | cons b breaks ih =>
    rw [List.cons_append, literalBody, if_pos (h b List.mem_cons_self),
      ih fun c hc => h c (List.mem_cons_of_mem b hc)]
    rfl

theorem literalBody_break {indent : Nat} (begun : Bool) {b : Char} (h : isBreak b = true)
    (rest : List Char) :
    literalBody indent begun (b :: rest) = b :: literalBody indent true rest := by
  rw [literalBody, if_pos h]

/-- A line that is not empty is indented. -/
theorem literalBody_start {indent : Nat} {c : Char} (h : isBreak c = false) (rest : List Char) :
    literalBody indent true (c :: rest) = blanks indent ++ literalBody indent false (c :: rest) := by
  have hc : ¬ isBreak c = true := by simp [h]
  rw [literalBody, literalBody, if_neg hc, if_neg hc]
  rfl

theorem literalBody_concat {indent : Nat} {begun : Bool} {b : Char} (h : isBreak b = true)
    (cs : List Char) :
    literalBody indent begun (cs ++ [b]) = literalBody indent begun cs ++ [b] := by
  induction cs generalizing begun with
  | nil => rw [List.nil_append, literalBody_break begun h]; rfl
  | cons c cs ih =>
    rw [List.cons_append, literalBody, literalBody]
    split <;> simp only [ih, List.cons_append, List.append_assoc]

/-- A literal leaves no character out, so that the text bounds the reader's steps. -/
theorem length_le_literalBody (indent : Nat) (begun : Bool) (cs : List Char) :
    cs.length ≤ (literalBody indent begun cs).length := by
  induction cs generalizing begun with
  | nil => exact Nat.zero_le _
  | cons c cs ih =>
    have htrue := ih true
    have hfalse := ih false
    rw [literalBody]
    split <;> simp only [List.length_append, List.length_cons] <;> omega

namespace Block

/-! ## The start of a line -/

/-- Whether a line that starts with so many blanks belongs to a literal of an indentation, or to what
comes behind the literal. -/
def Stands (indent : Nat) (n : Nat) (rest : List Char) : Prop :=
  (n = indent ∧ ∃ c more, rest = c :: more ∧ isBreak c = false) ∨ (n < indent ∧ StartsToken rest)

/-- The first character of such a line is neither white space that is passed nor a tab. -/
theorem Stands.first {indent n : Nat} {rest : List Char} (h : Stands indent n rest) :
    ∀ c ∈ rest.head?, isBreak c = false ∧ (isIndenting (some indent) n && c == '\t') = false := by
  intro c hc
  obtain ⟨rfl, d, more, rfl, hd⟩ | ⟨-, hrest⟩ := h
  · obtain rfl : d = c := by simpa using hc
    exact ⟨hd, by simp [isIndenting]⟩
  · obtain ⟨hblank, hbreak, -⟩ := hrest c hc
    refine ⟨hbreak, ?_⟩
    have htab : c ≠ '\t' := by
      rintro rfl
      exact absurd hblank (by decide)
    simp [htab]

/-- In front of such a line the reader passes all blanks that are there. -/
theorem skipIndent_some {indent n : Nat} {rest : List Char} (h : Stands indent n rest) {m : Mark}
    (hm : m.column = 0) :
    skipIndent (some indent) ⟨blanks n ++ rest, m⟩ = ⟨rest, m.past (blanks n)⟩ := by
  have hskip := Cursor.skip_append (isBreak_of_mem_blanks (n := n)) rest m
  have htake : (blanks n ++ rest).takeWhile (· == ' ') = blanks n ++ rest.takeWhile (· == ' ') :=
    List.takeWhile_append_of_pos fun c hc => beq_iff_eq.mpr (List.eq_of_mem_replicate hc)
  -- blanks behind a full indentation belong to the line; with less of it, no blank follows
  have hcount : min ((blanks n ++ rest).takeWhile (· == ' ')).length (indent - m.column) = n := by
    rw [htake, List.length_append, length_blanks, hm]
    obtain ⟨rfl, -⟩ | ⟨hn, hrest⟩ := h
    · omega
    · have hnone : rest.takeWhile (· == ' ') = [] := by
        cases rest with
        | nil => rfl
        | cons c rest =>
          have hc : c ≠ ' ' := by
            rintro rfl
            exact absurd (hrest ' ' rfl).1 (by decide)
          simp [hc]
      rw [hnone, List.length_nil]
      omega
  rw [length_blanks] at hskip
  simp only [skipIndent, hcount, hskip]

/-- There is no indentation in front of a line break. -/
theorem skipIndent_of_isBreak (indent : Option Nat) {b : Char} (h : isBreak b = true)
    (rest : List Char) (m : Mark) : skipIndent indent ⟨b :: rest, m⟩ = ⟨b :: rest, m⟩ := by
  have hb : (b == ' ') = false := by
    rw [beq_eq_false_iff_ne]
    rintro rfl
    exact absurd h (by decide)
  cases indent <;> simp [skipIndent, hb, Cursor.skip]

/-- Line breaks and the indentation behind them are passed. -/
theorem scanBreaks_some {indent n : Nat} {rest : List Char} (h : Stands indent n rest)
    {breaks : List Char} (hbreaks : ∀ c ∈ breaks, IsTextBreak c) (start : Mark) (column : Nat)
    (stop : Mark) {m : Mark} (hm : m.column = 0) {bound : Nat} (hb : breaks.length < bound) :
    ∃ column' stop', scanBreaks (some indent) start bound column stop
      ⟨breaks ++ (blanks n ++ rest), m⟩ =
        .ok ⟨breaks, column', stop', ⟨rest, m.past (breaks ++ blanks n)⟩⟩ := by
  obtain ⟨bound, rfl⟩ := Nat.exists_eq_succ_of_ne_zero (Nat.ne_of_gt (Nat.zero_lt_of_lt hb))
  induction breaks generalizing column stop m bound with
  | nil =>
    -- without line breaks there is only the indentation to pass
    have hline : (m.past (blanks n)).column = n := by
      rw [Mark.past_of_sameLine m isBreak_of_mem_blanks, hm, length_blanks]
      exact Nat.zero_add n
    refine ⟨max column (m.past (blanks n)).column, stop, ?_⟩
    rw [List.nil_append, scanBreaks]
    simp only [skipIndent_some h hm]
    cases rest with
    | nil => rfl
    | cons c rest =>
      obtain ⟨hbreak, htab⟩ := h.first c rfl
      simp only [hline, htab, hbreak, Bool.false_eq_true, if_false]
      rfl
  | cons b breaks ih =>
    have hb' := hbreaks b List.mem_cons_self
    rw [List.length_cons] at hb
    obtain ⟨bound, rfl⟩ : ∃ k, bound = k + 1 := ⟨bound - 1, by omega⟩
    have hcolumn : (m.past [b]).column = 0 := by simp [Mark.past, hb'.isBreak]
    -- an empty line has no indentation
    have hskip := skipIndent_of_isBreak (some indent) hb'.isBreak (breaks ++ (blanks n ++ rest)) m
    have htab : (b == '\t') = false := by
      rcases hb' with rfl | rfl | rfl <;> rfl
    obtain ⟨column', stop', hmore⟩ := ih (fun c hc => hbreaks c (List.mem_cons_of_mem b hc))
      (max column m.column) (m.past [b]) hcolumn bound (by omega)
    refine ⟨column', stop', ?_⟩
    rw [List.cons_append, scanBreaks]
    simp only [hskip, htab, hb'.isBreak, Cursor.skipBreak_cons hb', Cursor.breakText_cons hb',
      Bool.and_false, Bool.false_eq_true, if_false, if_true]
    rw [hmore]
    rfl

/-- Where the indentation is not known, it is that of the first line. -/
theorem scanBreaks_none (n : Nat) {rest : List Char} (h : ∀ c ∈ rest.head?, IsInk c) (start stop : Mark)
    {m : Mark} (hm : m.column = 0) (bound : Nat) :
    scanBreaks none start (bound + 1) 0 stop ⟨blanks n ++ rest, m⟩ =
      .ok ⟨[], n, stop, ⟨rest, m.past (blanks n)⟩⟩ := by
  have hspace : ∀ c ∈ rest.head?, (c == ' ') = false := by
    intro c hc
    rw [beq_eq_false_iff_ne]
    rintro rfl
    exact absurd (h ' ' hc).1 (by decide)
  -- all blanks are passed, and the column behind them is the indentation
  have hskip : skipIndent none ⟨blanks n ++ rest, m⟩ = ⟨rest, m.past (blanks n)⟩ :=
    Cursor.skipWhile_append isBreak_of_mem_blanks
      (fun c hc => beq_iff_eq.mpr (List.eq_of_mem_replicate hc)) hspace m
  have hline : (m.past (blanks n)).column = n := by
    rw [Mark.past_of_sameLine m isBreak_of_mem_blanks, hm, length_blanks]
    exact Nat.zero_add n
  rw [scanBreaks]
  simp only [hskip, hline, Nat.zero_max]
  cases rest with
  | nil => rfl
  | cons c rest =>
    obtain ⟨hblank, hbreak⟩ := h c rfl
    have htab : (c == '\t') = false := by
      rw [beq_eq_false_iff_ne]
      rintro rfl
      exact absurd hblank (by decide)
    simp only [htab, hbreak, Bool.and_false, Bool.false_eq_true, if_false]
    rfl

/-! ## Lines -/

/-- Lines of text: they start with one that is not empty and end with one. -/
structure Lines (text : List Char) : Prop where
  starts : ∃ c rest, text = c :: rest ∧ isBreak c = false
  ends : ∀ c ∈ text.getLast?, isBreak c = false
  inside : ∀ c ∈ text, isBreak c = true → IsTextBreak c

/-- Such a text is one line, or a line, line breaks, and such a text again. -/
theorem Lines.cases {text : List Char} (h : Lines text) :
    (∀ c ∈ text, isBreak c = false) ∨ ∃ line d more rest, text = line ++ d :: (more ++ rest) ∧
      line ≠ [] ∧ (∀ c ∈ line, isBreak c = false) ∧ (∀ c ∈ d :: more, IsTextBreak c) ∧
        Lines rest := by
  obtain ⟨c, cs, rfl, hc⟩ := h.starts
  -- the first line goes up to the first line break, if there is one
  obtain ⟨line, behind, hsplit, hline, hbehind⟩ := exists_span (fun c => !isBreak c) (c :: cs)
  have hline : ∀ c ∈ line, isBreak c = false := fun c hc => by simpa using hline c hc
  rw [hsplit] at h ⊢
  cases behind with
  | nil => exact .inl (by simpa using hline)
  | cons d behind =>
    have hd : isBreak d = true := by simpa using hbehind
    obtain ⟨more, rest, rfl, hmore, hrest⟩ := exists_span isBreak behind
    have hne : line ≠ [] := by
      rintro rfl
      obtain ⟨rfl, -⟩ : c = d ∧ _ := by simpa using hsplit
      rw [hc] at hd
      exact absurd hd (by decide)
    have hall : ∀ x ∈ d :: more, isBreak x = true := by simpa [hd] using hmore
    have hbreaks : ∀ x ∈ d :: more, IsTextBreak x := fun x hx => by
      refine h.inside x ?_ (hall x hx)
      simp only [List.mem_cons] at hx
      simp only [List.mem_append, List.mem_cons]
      tauto
    refine .inr ⟨line, d, more, rest, rfl, hne, hline, hbreaks, ?_⟩
    -- the text does not end in a line break, so that lines follow
    have hlast : rest ≠ [] := by
      rintro rfl
      obtain ⟨front, x, hfront⟩ := (List.eq_nil_or_concat (d :: more)).resolve_left (by simp)
      have hx := h.ends x (by simp [hfront])
      rw [hall x (by simp [hfront])] at hx
      exact absurd hx (by decide)
    obtain ⟨e, rest, rfl⟩ := List.exists_cons_of_ne_nil hlast
    refine ⟨⟨e, rest, rfl, hrest e rfl⟩, fun x hx => h.ends x ?_, fun x hx => h.inside x ?_⟩
    · rw [← List.cons_append, ← List.append_assoc, List.getLast?_append, hx]
      rfl
    · simp only [List.mem_append, List.mem_cons] at hx ⊢
      tauto

section

variable (chomping : Chomping) (start : Mark) {indent n : Nat} {m : Mark}
  {line breaks rest : List Char} {b : Char}

/-- A line is read with the line breaks behind it and the indentation of what comes then. -/
theorem lines_line (hline : ∀ c ∈ line, isBreak c = false)
    (hbreaks : ∀ c ∈ b :: breaks, IsTextBreak c) (hrest : Stands indent n rest)
    (hm : m.column = indent) (bound : Nat) (blankBefore : Bool) (lineBreak pending : List Char)
    (column : Nat) (stop : Mark) :
    let passed := line ++ b :: (breaks ++ blanks n)
    ∃ column' stop', lines true chomping indent start (bound + 1) blankBefore lineBreak
        ⟨pending, column, stop, ⟨passed ++ rest, m⟩⟩ = (do
      let more ← lines true chomping indent start bound (startsBlank line) [b]
        ⟨breaks, column', stop', ⟨rest, m.past passed⟩⟩
      return { more with text := lineBreak ++ pending ++ line ++ more.text }) := by
  intro passed
  have hb := hbreaks b List.mem_cons_self
  have hpassed : passed ++ rest = line ++ b :: (breaks ++ (blanks n ++ rest)) := by
    simp only [passed, List.append_assoc, List.cons_append]
  -- the line ends at its first line break, behind which the next one is looked for
  have htake : (passed ++ rest).takeWhile (!isBreak ·) = line := by
    rw [hpassed, List.takeWhile_append_of_pos fun c hc => by simp [hline c hc]]
    simp [hb.isBreak]
  have hcolumn : ((m.past line).past [b]).column = 0 := by simp [Mark.past, hb.isBreak]
  have hroom : breaks.length < (breaks ++ (blanks n ++ rest)).length + 1 := by
    rw [List.length_append]
    omega
  obtain ⟨column', stop', hnext⟩ := scanBreaks_some hrest
    (fun c hc => hbreaks c (List.mem_cons_of_mem b hc)) start 0 ((m.past line).past [b]) hcolumn hroom
  have hmark : ((m.past line).past [b]).past (breaks ++ blanks n) = m.past passed := by
    rw [← Mark.past_append, ← Mark.past_append, List.singleton_append]
  have hsome : passed ++ rest ≠ [] := by
    rw [hpassed]
    simp
  rw [hmark] at hnext
  refine ⟨column', stop', ?_⟩
  rw [lines]
  simp only [hm, htake, true_and, if_pos hsome]
  rw [hpassed]
  simp only [Cursor.skip_append hline, Cursor.skipBreak_cons hb, Cursor.breakText_cons hb, hnext]
  rfl

/-- Behind a line, its breaks and the indentation of the next one, the column is that indentation.
-/
theorem column_past_line (hbreaks : ∀ c ∈ b :: breaks, IsTextBreak c) :
    (m.past (line ++ b :: (breaks ++ blanks n))).column = n := by
  rw [Mark.past_append,
    Mark.column_past_breaks _ (fun c hc => (hbreaks c hc).isBreak) isBreak_of_mem_blanks,
    length_blanks]

/-- A line that is not indented is the end. -/
theorem lines_end (hn : n ≠ indent) (hm : m.column = n) (bound : Nat) (blankBefore : Bool)
    (lineBreak pending : List Char) (column : Nat) (stop : Mark) :
    lines true chomping indent start bound blankBefore lineBreak
        ⟨pending, column, stop, ⟨rest, m⟩⟩ =
      .ok ⟨tail chomping lineBreak pending, stop, ⟨rest, m⟩⟩ := by
  cases bound with
  | zero => rfl
  | succ bound =>
    rw [lines]
    simp [hm, hn]

/-- The lines of a literal are read, and so is the way to the next token, which is not indented as
they are. -/
theorem lines_text {text : List Char} (h : Lines text) (hbreaks : ∀ c ∈ b :: breaks, IsTextBreak c)
    (hn : n < indent) (hrest : StartsToken rest) (hm : m.column = indent) {bound : Nat}
    (hb : text.length ≤ bound) (blankBefore : Bool) (lineBreak pending : List Char) (column : Nat)
    (stop : Mark) :
    let written := literalBody indent false (text ++ b :: breaks) ++ blanks n
    ∃ stop', lines true chomping indent start bound blankBefore lineBreak
      ⟨pending, column, stop, ⟨written ++ rest, m⟩⟩ =
        .ok ⟨lineBreak ++ pending ++ text ++ tail chomping [b] breaks, stop',
          ⟨rest, m.past written⟩⟩ := by
  induction bound generalizing text m blankBefore lineBreak pending column stop with
  | zero =>
    obtain ⟨c, more, rfl, -⟩ := h.starts
    exact absurd hb (by simp)
  | succ bound ih =>
    have hbody {breaks : List Char} (h : ∀ c ∈ breaks, IsTextBreak c) (rest : List Char) :
        literalBody indent true (breaks ++ rest) = breaks ++ literalBody indent true rest :=
      literalBody_breaks (fun c hc => (h c hc).isBreak) rest
    obtain hline | ⟨line, d, more, text, rfl, hne, hline, hmore, htext⟩ := h.cases
    · -- the last line is followed by the line breaks at the end
      have hne : text ≠ [] := by
        obtain ⟨c, more, rfl, -⟩ := h.starts
        exact List.cons_ne_nil c more
      have hwritten : literalBody indent false (text ++ b :: breaks) ++ blanks n =
          text ++ b :: (breaks ++ blanks n) := by
        have hlast := hbody (fun c hc => hbreaks c (List.mem_cons_of_mem b hc)) []
        rw [List.append_nil] at hlast
        rw [literalBody_line hline, literalBody_break false (hbreaks b List.mem_cons_self).isBreak,
          hlast, literalBody, List.append_nil, List.append_assoc, List.cons_append]
      obtain ⟨column', stop', hstep⟩ := lines_line chomping start hline
        hbreaks (Or.inr ⟨hn, hrest⟩) hm bound blankBefore lineBreak pending column stop
      refine ⟨stop', ?_⟩
      rw [hwritten, hstep, lines_end chomping start (Nat.ne_of_lt hn) (column_past_line hbreaks)]
      rfl
    · obtain ⟨c, text', rfl, hc⟩ := htext.starts
      -- behind the line breaks stands another line, which is indented
      have hlater : ∃ more, literalBody indent false (c :: text' ++ b :: breaks) ++ blanks n =
          c :: more := by
        have hc' : ¬ isBreak c = true := by simp [hc]
        rw [List.cons_append, literalBody, if_neg hc']
        exact ⟨_, rfl⟩
      have hwritten : literalBody indent false (line ++ d :: (more ++ c :: text') ++ b :: breaks) ++
          blanks n = (line ++ d :: (more ++ blanks indent)) ++
            (literalBody indent false (c :: text' ++ b :: breaks) ++ blanks n) := by
        simp only [List.append_assoc, List.cons_append, literalBody_line hline,
          literalBody_break false (hmore d List.mem_cons_self).isBreak,
          hbody fun c hc => hmore c (List.mem_cons_of_mem d hc), literalBody_start hc]
      obtain ⟨later, hlater⟩ := hlater
      have hstands : Stands indent indent
          (literalBody indent false (c :: text' ++ b :: breaks) ++ blanks n ++ rest) := by
        rw [hlater]
        exact .inl ⟨rfl, c, later ++ rest, rfl, hc⟩
      have hshorter : (c :: text').length ≤ bound := by
        simp only [List.length_append, List.length_cons] at hb ⊢
        omega
      obtain ⟨column', stop', hstep⟩ := lines_line chomping start hline
        hmore hstands hm bound blankBefore lineBreak pending column stop
      obtain ⟨stop'', hnext⟩ := ih htext (column_past_line hmore) hshorter (startsBlank line) [d] more
        column' stop'
      refine ⟨stop'', ?_⟩
      rw [hwritten, List.append_assoc, hstep, hnext, ← Mark.past_append]
      simp only [List.append_assoc, List.cons_append, List.nil_append]
      rfl

end

/-! ## Whole literals -/

/-- How a header says what becomes of the line breaks at the end. -/
def Chomping.indicator : Chomping → List Char
  | .strip => ['-']
  | .clip => []
  | .keep => ['+']

/-- The header of a literal with the line break behind it. -/
def headerLine (hinted : Bool) (chomping : Chomping) : List Char :=
  '|' :: ((if hinted then Nat.toDigits 10 Writer.step else []) ++ chomping.indicator ++ ['\n'])

/-- A header is read as what it tells. -/
theorem scanHeader_headerLine (hinted : Bool) (chomping : Chomping) (start : Mark)
    (rest : List Char) (m : Mark) :
    scanHeader start ((⟨headerLine hinted chomping ++ rest, m⟩ : Cursor).skip 1) =
      .ok (⟨chomping, if hinted then some Writer.step else none⟩,
        ⟨rest, m.past (headerLine hinted chomping)⟩) := by
  cases hinted <;> cases chomping <;> rfl

theorem column_headerLine (hinted : Bool) (chomping : Chomping) (m : Mark) :
    (m.past (headerLine hinted chomping)).column = 0 := by
  cases hinted <;> cases chomping <;> rfl

/-- Behind line breaks and an indentation, the column is that of the indentation. -/
theorem column_past_indent {m : Mark} (hm : m.column = 0) {breaks : List Char}
    (hbreaks : ∀ c ∈ breaks, isBreak c = true) (n : Nat) :
    (m.past (breaks ++ blanks n)).column = n := by
  cases breaks with
  | nil =>
    rw [List.nil_append, Mark.past_of_sameLine m isBreak_of_mem_blanks, hm, length_blanks]
    exact Nat.zero_add n
  | cons b breaks =>
    rw [List.cons_append, Mark.column_past_breaks m hbreaks isBreak_of_mem_blanks, length_blanks]

/-- The indentation that a header gives. -/
def given? (hinted : Bool) (indent : Nat) : Option Nat :=
  if hinted then some (indent + Writer.step) else none

/-- A literal is read from the first line behind its header. -/
theorem scan_headerLine (hinted : Bool) (chomping : Chomping) (indent : Nat) (body : List Char)
    (m : Mark) :
    let m' := m.past (headerLine hinted chomping)
    scan true indent ⟨headerLine hinted chomping ++ body, m⟩ = (do
      let breaks ← scanBreaks (given? hinted indent) m (body.length + 1) 0 m' ⟨body, m'⟩
      lines true chomping ((given? hinted indent).getD (max breaks.column (indent + 1))) m
        (body.length + 1) false [] breaks) := by
  intro m'
  -- the lines are indented more than what is around the literal
  have hinner : max ((indent : Int) + 1).toNat 1 = indent + 1 := by omega
  have hindent : (0 : Int) ≤ indent := by omega
  rw [scan]
  simp only [scanHeader_headerLine, hinner]
  cases hinted with
  | false => rfl
  | true =>
    simp only [if_true, bind, Except.bind, Option.map_some, if_pos hindent, Int.toNat_natCast]
    rfl

section

variable (chomping : Chomping) {indent n : Nat} (hn : n ≤ indent) {rest : List Char}
  (hrest : StartsToken rest) (m : Mark)

include hn hrest

/-- A literal without lines of text, all of which are empty. Where there are any, the header gives
the indentation. -/
theorem scan_empty (hinted : Bool) {breaks : List Char} (hbreaks : ∀ c ∈ breaks, IsTextBreak c)
    (hhint : hinted = false → breaks = []) :
    let written := headerLine hinted chomping ++ (breaks ++ blanks n)
    ∃ stop, scan true indent ⟨written ++ rest, m⟩ =
      .ok ⟨tail chomping [] breaks, stop, ⟨rest, m.past written⟩⟩ := by
  intro written
  have hcolumn := column_headerLine hinted chomping m
  have hend := column_past_indent hcolumn (fun c hc => (hbreaks c hc).isBreak) n
  have htext : written ++ rest = headerLine hinted chomping ++ (breaks ++ (blanks n ++ rest)) := by
    simp only [written, List.append_assoc]
  have hmark : m.past written = (m.past (headerLine hinted chomping)).past (breaks ++ blanks n) :=
    Mark.past_append m _ _
  rw [htext, scan_headerLine, hmark]
  cases hinted with
  | false =>
    obtain rfl := hhint rfl
    -- the indentation is not known, but nothing is as deep as it would have to be
    have hnone := scanBreaks_none n (fun c hc => ⟨(hrest c hc).1, (hrest c hc).2.1⟩) m
      (m.past (headerLine false chomping)) hcolumn (blanks n ++ rest).length
    have hshort : n ≠ max n (indent + 1) := by omega
    refine ⟨m.past (headerLine false chomping), ?_⟩
    rw [given?, if_neg Bool.false_ne_true, List.nil_append, hnone]
    exact lines_end chomping m hshort hend _ false [] [] n _
  | true =>
    -- the indentation is given, and the next token is not as deep
    have hroom : breaks.length < (breaks ++ (blanks n ++ rest)).length + 1 := by
      rw [List.length_append]
      omega
    have hshort : n < indent + Writer.step :=
      Nat.lt_of_le_of_lt hn (Nat.lt_add_of_pos_right (by decide))
    obtain ⟨column, stop, hsome⟩ := scanBreaks_some (Or.inr ⟨hshort, hrest⟩) hbreaks m 0
      (m.past (headerLine true chomping)) hcolumn hroom
    refine ⟨stop, ?_⟩
    rw [given?, if_pos rfl, hsome]
    exact lines_end chomping m (Nat.ne_of_lt hshort) hend _ false [] breaks column stop

/-- A literal with lines of text. -/
theorem scan_text (hinted : Bool) {before text behind : List Char} {b : Char} (htext : Lines text)
    (hbefore : ∀ c ∈ before, IsTextBreak c) (hbehind : ∀ c ∈ b :: behind, IsTextBreak c)
    (hhint : hinted = false → before = [] ∧ ∀ c ∈ text.head?, IsInk c) :
    let written := headerLine hinted chomping ++
      (literalBody (indent + Writer.step) true (before ++ (text ++ b :: behind)) ++ blanks n)
    ∃ stop, scan true indent ⟨written ++ rest, m⟩ =
      .ok ⟨before ++ text ++ tail chomping [b] behind, stop, ⟨rest, m.past written⟩⟩ := by
  intro written
  have hn' : n < indent + Writer.step := Nat.lt_of_le_of_lt hn (Nat.lt_add_of_pos_right (by decide))
  have hcolumn := column_headerLine hinted chomping m
  obtain ⟨c, more, rfl, hc⟩ := htext.starts
  generalize hlater :
    literalBody (indent + Writer.step) false (c :: more ++ b :: behind) ++ blanks n = later
  have hfirst : ∃ tail, later = c :: tail := by
    have hc' : ¬ isBreak c = true := by simp [hc]
    rw [← hlater, List.cons_append, literalBody, if_neg hc']
    exact ⟨_, rfl⟩
  have hwritten : written = headerLine hinted chomping ++
      (before ++ (blanks (indent + Writer.step) ++ later)) := by
    simp only [written, ← hlater, literalBody_breaks fun c hc => (hbefore c hc).isBreak,
      List.cons_append, literalBody_start hc, List.append_assoc]
  obtain ⟨tail', rfl⟩ := hfirst
  have hend := column_past_indent hcolumn (fun c hc => (hbefore c hc).isBreak)
    (indent + Writer.step)
  -- the indentation is given, or it is that of the first line
  have hbreaks : ∃ column stop,
      scanBreaks (given? hinted indent) m
        ((before ++ (blanks (indent + Writer.step) ++ (c :: tail' ++ rest))).length + 1) 0
        (m.past (headerLine hinted chomping)) ⟨before ++ (blanks (indent + Writer.step) ++
          (c :: tail' ++ rest)), m.past (headerLine hinted chomping)⟩ =
        .ok ⟨before, column, stop, ⟨c :: tail' ++ rest, (m.past (headerLine hinted chomping)).past
          (before ++ blanks (indent + Writer.step))⟩⟩ ∧
      (given? hinted indent).getD (max column (indent + 1)) = indent + Writer.step := by
    cases hinted with
    | false =>
      obtain ⟨rfl, hink⟩ := hhint rfl
      have hlater : ∀ d ∈ (c :: tail' ++ rest).head?, IsInk d := hink
      exact ⟨_, _, scanBreaks_none _ hlater m _ hcolumn _,
        Nat.max_eq_left (Nat.add_le_add_left (by decide) indent)⟩
    | true =>
      have hroom : before.length <
          (before ++ (blanks (indent + Writer.step) ++ (c :: tail' ++ rest))).length + 1 := by
        rw [List.length_append]
        omega
      have hstands : Stands (indent + Writer.step) (indent + Writer.step) (c :: tail' ++ rest) :=
        .inl ⟨rfl, c, tail' ++ rest, rfl, hc⟩
      obtain ⟨column, stop, hsome⟩ := scanBreaks_some hstands hbefore m 0
        (m.past (headerLine true chomping)) hcolumn hroom
      exact ⟨column, stop, hsome, rfl⟩
  obtain ⟨column, stop, hbreaks, hindent⟩ := hbreaks
  have hroom : (c :: more).length ≤
      (before ++ (blanks (indent + Writer.step) ++ (c :: tail' ++ rest))).length + 1 := by
    have hwhole := length_le_literalBody (indent + Writer.step) false (c :: more ++ b :: behind)
    have hlength := congrArg List.length hlater
    simp only [List.length_append, List.length_cons] at hwhole hlength ⊢
    omega
  obtain ⟨stop', hlines⟩ := lines_text chomping m htext hbehind hn' hrest hend hroom false [] before
    column stop
  rw [hlater] at hlines
  have htext : written ++ rest = headerLine hinted chomping ++
      (before ++ (blanks (indent + Writer.step) ++ (c :: tail' ++ rest))) := by
    simp only [hwritten, List.append_assoc]
  have hmark : m.past written = ((m.past (headerLine hinted chomping)).past
      (before ++ blanks (indent + Writer.step))).past (c :: tail') := by
    rw [hwritten, ← Mark.past_append, ← Mark.past_append]
    simp only [List.append_assoc]
  refine ⟨stop', ?_⟩
  rw [htext, scan_headerLine, hbreaks, hmark]
  simp only [bind, Except.bind, hindent]
  exact hlines

end

/-! ## The literals that are written -/

/-- Whether the first line of a text does not show the indentation. -/
def hides (cs : List Char) : Bool := cs.head?.any fun c => Writer.isSpace c || isBreak c

/-- The header that is written gives the indentation where the first line hides it. -/
theorem headerLine_eq {cs : List Char} {chomping : Chomping}
    (h : Writer.keeping cs = chomping.indicator) :
    Writer.literalHeader cs ++ ['\n'] = headerLine (hides cs) chomping := by
  cases cs with
  | nil => simp [Writer.literalHeader, headerLine, hides, h]
  | cons c rest =>
    cases hhint : Writer.isSpace c || isBreak c <;>
      simp [Writer.literalHeader, headerLine, hides, h, hhint]

/-- A text that ends in ink is told to lose the line break that is put behind it. -/
theorem keeping_ink (cs : List Char) {c : Char} (h : isBreak c = false) :
    Writer.keeping (cs ++ [c]) = ['-'] := by
  simp [Writer.keeping, h]

/-- A text that ends in one line break needs no word about it. -/
theorem keeping_break (cs : List Char) {c b : Char} (hc : isBreak c = false) (hb : isBreak b = true) :
    Writer.keeping (cs ++ [c, b]) = [] := by
  simp [Writer.keeping, hc, hb]

/-- A text that ends in several line breaks is told to keep them. -/
theorem keeping_breaks (cs : List Char) {b b' : Char} (hb : isBreak b = true)
    (hb' : isBreak b' = true) : Writer.keeping (cs ++ [b, b']) = ['+'] := by
  simp [Writer.keeping, hb, hb']

/-- A text is split into the line breaks in front, its lines, and the line breaks behind. -/
theorem exists_lines {cs : List Char} (h : ∀ c ∈ cs, isBreak c = true → IsTextBreak c) :
    (∀ c ∈ cs, IsTextBreak c) ∨ ∃ before text behind, cs = before ++ (text ++ behind) ∧
      (∀ c ∈ before, IsTextBreak c) ∧ Lines text ∧ ∀ c ∈ behind, IsTextBreak c := by
  -- the line breaks behind the lines are the first ones of the text read backwards
  obtain ⟨before, rest, rfl, hbefore, hrest⟩ := exists_span isBreak cs
  have hbefore' : ∀ c ∈ before, IsTextBreak c := fun c hc =>
    h c (List.mem_append_left rest hc) (hbefore c hc)
  obtain ⟨front, text, hsplit, hfront, htext⟩ := exists_span isBreak rest.reverse
  have hsplit : rest = text.reverse ++ front.reverse := by
    rw [← List.reverse_append, ← hsplit, List.reverse_reverse]
  have hbehind : ∀ c ∈ front.reverse, isBreak c = true := fun c hc =>
    hfront c (List.mem_reverse.mp hc)
  cases text with
  | nil =>
    refine .inl fun c hc => h c hc ?_
    rw [hsplit] at hc
    obtain hc | hc := List.mem_append.mp hc
    · exact hbefore c hc
    · exact hbehind c hc
  | cons d text =>
    have hmem : ∀ c ∈ rest, c ∈ before ++ rest := fun c hc => List.mem_append_right before hc
    have htext' : ∀ c ∈ (d :: text).reverse, c ∈ rest := fun c hc =>
      hsplit ▸ List.mem_append_left _ hc
    refine .inr ⟨before, (d :: text).reverse, front.reverse, by rw [← hsplit], hbefore',
      ⟨?_, fun c hc => htext c (by rwa [List.getLast?_reverse] at hc),
        fun c hc => h c (hmem c (htext' c hc))⟩,
      fun c hc => h c (hmem c (hsplit ▸ List.mem_append_right _ hc)) (hbehind c hc)⟩
    obtain ⟨e, more, he⟩ := List.exists_cons_of_ne_nil (List.reverse_ne_nil_iff.mpr
      (List.cons_ne_nil d text))
    exact ⟨e, more, he, hrest e (by rw [hsplit, he]; rfl)⟩

/-- A text as a literal, with the end of its last line. -/
def literal (indent : Nat) (cs : List Char) : List Char :=
  Writer.literalHeader cs ++ '\n' :: literalBody (indent + Writer.step) true cs ++
    if cs.getLast?.any isBreak then [] else ['\n']

/-- A literal is its header and its lines, with a line break behind the last one if it has none. -/
theorem literal_eq {indent : Nat} {cs : List Char} {chomping : Chomping}
    (h : Writer.keeping cs = chomping.indicator) :
    literal indent cs = headerLine (hides cs) chomping ++
      literalBody (indent + Writer.step) true
        (cs ++ if cs.getLast?.any isBreak then [] else ['\n']) := by
  rw [literal, ← headerLine_eq h]
  split
  · simp only [List.append_nil, List.append_assoc, List.cons_append, List.nil_append]
  · rw [literalBody_concat (show isBreak '\n' = true from rfl)]
    simp only [List.append_assoc, List.cons_append, List.nil_append]

/-- Behind a literal starts another line. -/
theorem column_literal (indent n : Nat) (cs : List Char) (m : Mark) :
    (m.past (literal indent cs ++ blanks n)).column = n := by
  -- a literal ends in a line break, whether the text has one or it was put behind
  have hends : ∃ front b, literal indent cs = front ++ [b] ∧ isBreak b = true := by
    unfold literal
    split
    · rename_i hlast
      obtain rfl | ⟨front, b, rfl⟩ := List.eq_nil_or_concat cs
      · exact absurd hlast (by simp)
      · have hb : isBreak b = true := by simpa using hlast
        refine ⟨Writer.literalHeader (front ++ [b]) ++
          '\n' :: literalBody (indent + Writer.step) true front, b, ?_, hb⟩
        rw [List.concat_eq_append, literalBody_concat hb, List.append_nil, List.append_assoc]
        rfl
    · exact ⟨_, '\n', rfl, rfl⟩
  obtain ⟨front, b, hliteral, hb⟩ := hends
  rw [hliteral, List.append_assoc, List.singleton_append,
    Mark.column_past_line m front hb isBreak_of_mem_blanks, length_blanks]

/-- Where the header gives no indentation, the first line shows it. -/
theorem ink_of_hides {before text behind : List Char} (htext : Lines text)
    (hbefore : ∀ c ∈ before, IsTextBreak c) (htab : ∀ c ∈ text, c ≠ '\t')
    (h : hides (before ++ (text ++ behind)) = false) :
    before = [] ∧ ∀ c ∈ text.head?, IsInk c := by
  cases before with
  | nil =>
    obtain ⟨c, more, rfl, hc⟩ := htext.starts
    refine ⟨rfl, fun d hd => ?_⟩
    obtain rfl : c = d := by simpa using hd
    have hspace : Writer.isSpace c = false := by
      simpa [hides, hc] using h
    exact ⟨by simpa [isBlank, htab c List.mem_cons_self, Writer.isSpace] using hspace, hc⟩
  | cons b before =>
    have hb := (hbefore b List.mem_cons_self).isBreak
    simp [hides, hb] at h

/-- Of two line breaks or more there are a last and a last but one. -/
theorem exists_lastTwo (b : Char) {behind : List Char} (h : behind ≠ []) :
    ∃ front y x, b :: behind = front ++ [y, x] := by
  obtain ⟨middle, x, rfl⟩ := (List.eq_nil_or_concat behind).resolve_left h
  obtain ⟨front, y, hy⟩ := (List.eq_nil_or_concat (b :: middle)).resolve_left (by simp)
  refine ⟨front, y, x, ?_⟩
  rw [List.concat_eq_append, ← List.cons_append, hy, List.concat_eq_append, List.append_assoc]
  rfl

/-- Several line breaks at the end are all kept. -/
theorem keeping_of_breaks (cs : List Char) {b : Char} {behind : List Char}
    (h : ∀ c ∈ b :: behind, isBreak c = true) (hne : behind ≠ []) :
    Writer.keeping (cs ++ b :: behind) = Chomping.keep.indicator := by
  obtain ⟨front, y, x, htwo⟩ := exists_lastTwo b hne
  have hy : isBreak y = true := h y (by rw [htwo]; simp)
  have hx : isBreak x = true := h x (by rw [htwo]; simp)
  rw [htwo, ← List.append_assoc]
  exact keeping_breaks _ hy hx

theorem getLast?_any_isBreak (cs : List Char) {b : Char} {behind : List Char}
    (h : ∀ c ∈ b :: behind, isBreak c = true) :
    (cs ++ b :: behind).getLast?.any isBreak = true := by
  obtain ⟨front, x, hx⟩ := (List.eq_nil_or_concat (b :: behind)).resolve_left (by simp)
  have hbreak : isBreak x = true := h x (by simp [hx])
  simp [hx, hbreak]

/-- A text that fits a literal is read back. -/
theorem scan_literal {indent n : Nat} (hn : n ≤ indent) {rest : List Char} (hrest : StartsToken rest)
    {cs : List Char} (h : Writer.fitsLiteral cs = true) (hne : cs ≠ []) (m : Mark) :
    let written := literal indent cs ++ blanks n
    ∃ stop, scan true indent ⟨written ++ rest, m⟩ = .ok ⟨cs, stop, ⟨rest, m.past written⟩⟩ := by
  simp only [Writer.fitsLiteral, Writer.needsDouble, Bool.not_eq_true', Bool.or_eq_false_iff,
    List.any_eq_false, Bool.not_eq_false] at h
  have hprintable : ∀ c ∈ cs, Writer.isPrintable c = true := by simpa using h.1.1
  have hbreaks : ∀ c ∈ cs, isBreak c = true → IsTextBreak c := fun c hc =>
    isTextBreak_of_isPrintable (hprintable c hc)
  have htab : ∀ c ∈ cs, c ≠ '\t' := by
    rintro c hc rfl
    exact absurd (hprintable _ hc) (by decide)
  obtain hall | ⟨before, text, behind, rfl, hbefore, htext, hbehind⟩ := exists_lines hbreaks
  · -- all lines are empty
    obtain ⟨b, behind, rfl⟩ := List.exists_cons_of_ne_nil hne
    have hall' : ∀ c ∈ b :: behind, isBreak c = true := fun c hc => (hall c hc).isBreak
    have hkeeping : Writer.keeping ([] ++ b :: behind) = Chomping.keep.indicator := by
      by_cases hmore : behind = []
      · subst hmore
        simp [Writer.keeping, hall' b List.mem_cons_self, Chomping.indicator]
      · exact keeping_of_breaks [] hall' hmore
    have hbody : literalBody (indent + Writer.step) true (b :: behind ++ []) = b :: behind ++ [] :=
      literalBody_breaks hall' []
    have hhides : hides (b :: behind) = true := by simp [hides, hall' b List.mem_cons_self]
    obtain ⟨stop, hscan⟩ := scan_empty .keep hn hrest m true hall (by simp)
    refine ⟨stop, ?_⟩
    have hlast : ([] ++ b :: behind).getLast?.any isBreak = true := getLast?_any_isBreak [] hall'
    rw [List.nil_append] at hkeeping hlast
    rw [literal_eq hkeeping, hlast, if_pos rfl, hbody, hhides]
    simpa [List.append_assoc, tail] using hscan
  · have hhint : hides (before ++ (text ++ behind)) = false →
        before = [] ∧ ∀ c ∈ text.head?, IsInk c :=
      ink_of_hides htext hbefore fun c hc => htab c (by simp [hc])
    obtain ⟨c, more, htextc, hc⟩ := htext.starts
    obtain ⟨front, d, hfront⟩ := (List.eq_nil_or_concat text).resolve_left (by simp [htextc])
    have hd : isBreak d = false := htext.ends d (by simp [hfront])
    -- how many line breaks are at the end decides what the header says of them
    cases behind with
    | nil =>
      have hkeeping : Writer.keeping (before ++ (text ++ [])) = Chomping.strip.indicator := by
        rw [hfront, List.append_nil, List.concat_eq_append, ← List.append_assoc]
        exact keeping_ink (before ++ front) hd
      have hlast : (before ++ (text ++ [])).getLast?.any isBreak = false := by
        simp [hfront, hd]
      have hend : ∀ x ∈ ['\n'], IsTextBreak x := by simp [IsTextBreak]
      obtain ⟨stop, hscan⟩ := scan_text .strip hn hrest m _ htext hbefore hend hhint
      refine ⟨stop, ?_⟩
      rw [literal_eq hkeeping, hlast]
      simpa [List.append_assoc, tail] using hscan
    | cons b behind =>
      have hbehind' : ∀ c ∈ b :: behind, isBreak c = true := fun c hc => (hbehind c hc).isBreak
      have hkeeping : Writer.keeping (before ++ (text ++ b :: behind)) =
          (if behind = [] then Chomping.clip else .keep).indicator := by
        by_cases hmore : behind = []
        · rw [if_pos hmore, hmore, hfront, List.concat_eq_append, List.append_assoc,
            ← List.append_assoc]
          exact keeping_break (before ++ front) hd (hbehind' b List.mem_cons_self)
        · rw [if_neg hmore, ← List.append_assoc]
          exact keeping_of_breaks _ hbehind' hmore
      have hlast : (before ++ (text ++ b :: behind)).getLast?.any isBreak = true := by
        rw [← List.append_assoc]
        exact getLast?_any_isBreak _ hbehind'
      obtain ⟨stop, hscan⟩ := scan_text (if behind = [] then .clip else .keep) hn hrest m _ htext
        hbefore hbehind hhint
      have htail : tail (if behind = [] then .clip else .keep) [b] behind = b :: behind := by
        split
        · rename_i h
          rw [h]
          rfl
        · rfl
      refine ⟨stop, ?_⟩
      rw [literal_eq hkeeping, hlast, if_pos rfl, List.append_nil]
      simpa only [htail, List.append_assoc] using hscan

end Block

end AmountPad.Yaml
