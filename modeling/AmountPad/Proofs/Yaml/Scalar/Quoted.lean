import Mathlib
import AmountPad.Proofs.Yaml.Scalar.Escape

/-!
# Quoted scalars are read back

Between quotes, a reader takes the characters on a line as they are, or as their escapes, and it
folds the gap from one line to the next. Texts that fit single quotes have no blank beside a line
break, so that no blank is lost in a gap; between double quotes, line breaks are escaped and there
are no gaps but those of blanks.

* `Lined` — what is left of a text that single quotes hold;
* `Quoted.doubled` — a character between single quotes.

Main results:

* `Quoted.scan_single` — a text that fits single quotes is read back;
* `Quoted.scan_double` — every text between double quotes is read back.
-/

namespace AmountPad.Yaml

open Writer (blanks hasPair isSpace)

/-! ## Single quotes -/

/-- What is left of a text that single quotes hold: no white space but blanks and the line breaks that
stand for themselves, and no blank beside a line break. -/
structure Lined (cs : List Char) : Prop where
  spaced : ∀ c ∈ cs, c ≠ '\t' ∧ (isBreak c = true → IsTextBreak c ∧ c ≠ '\n')
  before : hasPair isSpace isBreak cs = false
  behind : hasPair isBreak isSpace cs = false

/-- A pair of neighbours at the end of a text is one of the whole text. -/
theorem hasPair_append_right {p q : Char → Bool} {cs cs' : List Char}
    (h : hasPair p q (cs ++ cs') = false) : hasPair p q cs' = false := by
  induction cs with
  | nil => exact h
  | cons c cs ih =>
    apply ih
    rw [List.cons_append] at h
    generalize cs ++ cs' = rest at h ⊢
    cases rest with
    | nil => rfl
    | cons d rest =>
      rw [hasPair, Bool.or_eq_false_iff] at h
      exact h.2

/-- What is behind a run of characters of the first class is not of the second one. -/
theorem not_of_hasPair {p q : Char → Bool} {b c : Char} {run rest : List Char}
    (h : hasPair p q (b :: (run ++ c :: rest)) = false) (hrun : ∀ x ∈ b :: run, p x = true) :
    q c = false := by
  induction run generalizing b with
  | nil =>
    rw [List.nil_append, hasPair, hrun b List.mem_cons_self, Bool.true_and,
      Bool.or_eq_false_iff] at h
    exact h.1
  | cons d run ih =>
    rw [List.cons_append, hasPair, Bool.or_eq_false_iff] at h
    exact ih h.2 fun x hx => hrun x (List.mem_cons_of_mem b hx)

/-- What is left of such a text behind some of its characters is such a text too. -/
theorem Lined.behind_append {cs cs' : List Char} (h : Lined (cs ++ cs')) : Lined cs' :=
  ⟨fun c hc => h.spaced c (List.mem_append_right cs hc), hasPair_append_right h.before,
    hasPair_append_right h.behind⟩

/-- Texts that are written between single quotes have no blank beside a line break. -/
theorem lined_of_fitsSingle {cs : List Char} (h : Writer.fitsSingle cs = true)
    (hn : cs.contains '\n' = false) : Lined cs := by
  simp only [Writer.fitsSingle, Writer.needsDouble, Bool.not_eq_true', Bool.or_eq_false_iff] at h
  obtain ⟨⟨hprintable, hbefore⟩, hbehind⟩ := h
  simp only [List.any_eq_false, Bool.not_eq_true', Bool.not_eq_false] at hprintable
  refine ⟨fun c hc => ⟨?_, fun hbreak => ⟨isTextBreak_of_isPrintable (hprintable c hc) hbreak, ?_⟩⟩,
    hbefore, hbehind⟩
  · rintro rfl
    exact absurd (hprintable _ hc) (by decide)
  · rintro rfl
    rw [List.contains_iff_mem.mpr hc] at hn
    exact absurd hn (by decide)

/-- Such a text is one run of ink, or a run of ink with blanks or line breaks behind it, and such a
text again. -/
theorem Lined.cases {cs : List Char} (h : Lined cs) :
    (∀ c ∈ cs, IsInk c) ∨ ∃ run rest, (∀ c ∈ run, IsInk c) ∧ (∀ c ∈ rest.head?, IsInk c) ∧
      Lined rest ∧
      ((∃ n, cs = run ++ (blanks (n + 1) ++ rest)) ∨
        ∃ b more, cs = run ++ (b :: (more ++ rest)) ∧ ∀ c ∈ b :: more, IsTextBreak c ∧ c ≠ '\n') := by
  -- the run of ink goes up to the first white space, if there is any
  obtain ⟨run, more, rfl, hrun, hmore⟩ := exists_span (fun c => !(isBlank c || isBreak c)) cs
  have hink : ∀ c ∈ run, IsInk c := fun c hc => by simpa [IsInk] using hrun c hc
  cases more with
  | nil => exact .inl (by simpa using hink)
  | cons b more =>
    have hspaced := h.spaced
    have htab : ∀ c ∈ b :: more, c ≠ '\t' := fun c hc => (hspaced c (List.mem_append_right _ hc)).1
    replace h := h.behind_append
    by_cases hb : isBlank b = true
    · obtain rfl : b = ' ' := by simpa [isBlank, htab b] using hb
      -- behind blanks comes no line break
      obtain ⟨n, rest, rfl, hrest⟩ := exists_blanks more
      refine .inr ⟨run, rest, hink, fun c hc => ?_, ?_, .inl ⟨n, rfl⟩⟩
      · obtain ⟨rest, rfl⟩ := List.head?_eq_some_iff.mp hc
        have hblanks : ∀ x ∈ ' ' :: blanks n, isSpace x = true := fun x hx =>
          beq_iff_eq.mpr (List.eq_of_mem_replicate (show x ∈ List.replicate (n + 1) ' ' from hx))
        exact ⟨by simp [isBlank, hrest c rfl, htab c], not_of_hasPair h.before hblanks⟩
      · rw [← List.cons_append] at h
        exact h.behind_append
    · have hbreak : isBreak b = true := by simpa [hb] using hmore b rfl
      -- behind line breaks comes no blank
      obtain ⟨breaks, rest, rfl, hbreaks, hrest⟩ := exists_span isBreak more
      have hall : ∀ c ∈ b :: breaks, isBreak c = true := by simpa [hbreak] using hbreaks
      refine .inr ⟨run, rest, hink, fun c hc => ?_, ?_, .inr ⟨b, breaks, rfl, fun c hc => ?_⟩⟩
      · obtain ⟨rest, rfl⟩ := List.head?_eq_some_iff.mp hc
        have hspace : isSpace c = false := not_of_hasPair h.behind hall
        exact ⟨by simpa [isBlank, isSpace, htab c] using hspace, hrest c rfl⟩
      · rw [← List.cons_append] at h
        exact h.behind_append
      · rw [← List.cons_append] at h
        exact (h.spaced c (List.mem_append_left _ hc)).2 (hall c hc)

/-! ## What is written between single quotes -/

/-- A quote as it is written. -/
def doubled (c : Char) : List Char := if c = '\'' then ['\'', '\''] else [c]

/-- On one line, between single quotes, a text is written as it is, its own quotes doubled. -/
theorem singleBody_ink {indent : Nat} {run : List Char} (h : ∀ c ∈ run, isBreak c = false)
    (rest : List Char) : Writer.singleBody indent false (run ++ rest) =
      run.flatMap doubled ++ Writer.singleBody indent false rest := by
  induction run with
  | nil => rfl
  | cons c run ih =>
    have hc : ¬ isBreak c = true := by simp [h c List.mem_cons_self]
    rw [List.cons_append, Writer.singleBody, if_neg hc, ih fun d hd => h d (List.mem_cons_of_mem c hd),
      List.flatMap_cons, List.append_assoc, List.append_assoc]
    rfl

theorem singleBody_blanks (indent n : Nat) (rest : List Char) :
    Writer.singleBody indent false (blanks n ++ rest) =
      blanks n ++ Writer.singleBody indent false rest := by
  have hsame : (blanks n).flatMap doubled = blanks n := by
    induction n with
    | zero => rfl
    | succ n ih => exact congrArg (' ' :: ·) ih
  rw [singleBody_ink isBreak_of_mem_blanks, hsame]

/-- The line behind line breaks is indented. -/
theorem singleBody_breaks {indent : Nat} (begun : Bool) {b : Char} {more : List Char}
    (h : ∀ c ∈ b :: more, isBreak c = true) {rest : List Char}
    (hrest : ∀ c ∈ rest.head?, isBreak c = false) :
    Writer.singleBody indent begun (b :: (more ++ rest)) =
      b :: (more ++ (blanks indent ++ Writer.singleBody indent false rest)) := by
  induction more generalizing begun b with
  | nil =>
    rw [Writer.singleBody, if_pos (h b List.mem_cons_self)]
    cases rest with
    | nil => simp [Writer.singleBody]
    | cons c rest => simp [Writer.singleBody, hrest c rfl]
  | cons c more ih =>
    rw [Writer.singleBody, if_pos (h b List.mem_cons_self), List.cons_append,
      ih true fun d hd => h d (List.mem_cons_of_mem b hd)]
    rfl

namespace Quoted

section

variable {single : Bool} {start : Mark} {c : Cursor} {run : Run}

/-- A run up to the closing quote is the last one. -/
theorem runs_last (hm : 0 < c.mark.column) (hne : c.rest ≠ [])
    (hrun : scanRun single start c = .ok run)
    (hquote : run.cursor.rest.head? = some (if single then '\'' else '"')) (bound : Nat) :
    runs single start (bound + 1) c = .ok (run.text, run.cursor) := by
  rw [runs, Cursor.atMarker_of_column_pos hm, Cursor.atMarker_of_column_pos hm, if_neg hne, hrun]
  simp only [bind, Except.bind, hquote, beq_self_eq_true, if_true, Bool.or_false, Bool.false_eq_true,
    if_false]
  rfl

/-- Behind any other run comes a gap. -/
theorem runs_gap (hm : 0 < c.mark.column) (hne : c.rest ≠ [])
    (hrun : scanRun single start c = .ok run)
    (hquote : run.cursor.rest.head? ≠ some (if single then '\'' else '"')) {gap : Gap} {c' : Cursor}
    (hgap : Gap.scan none run.cursor.rest.length { broken := run.joined } run.cursor =
      (some gap, c')) (bound : Nat) :
    runs single start (bound + 1) c = do
      let (more, c) ← runs single start bound c'
      return (run.text ++ gap.text ++ more, c) := by
  rw [runs, Cursor.atMarker_of_column_pos hm, Cursor.atMarker_of_column_pos hm, if_neg hne, hrun]
  simp only [bind, Except.bind, beq_eq_false_iff_ne.mpr hquote, Bool.or_false, Bool.false_eq_true,
    if_false, hgap]

end

/-- Ink is read up to a character that ends the run, and doubled quotes as single ones. -/
theorem singleRun_ink {run : List Char} (h : ∀ c ∈ run, IsInk c) {rest : List Char}
    (hrest : singleRun rest = ([], 0)) :
    singleRun (run.flatMap doubled ++ rest) = (run, (run.flatMap doubled).length) := by
  induction run with
  | nil => exact hrest
  | cons c run ih =>
    obtain ⟨hblank, hbreak⟩ := h c List.mem_cons_self
    have hih := ih fun d hd => h d (List.mem_cons_of_mem c hd)
    rw [List.flatMap_cons, doubled, List.append_assoc]
    split
    · -- a quote is written twice and read once
      rename_i hc
      subst hc
      simp only [List.cons_append, List.nil_append, singleRun, hih, List.length_cons]
    · rename_i hc
      rw [List.singleton_append, singleRun]
      · simp [hblank, hbreak, hc, hih]
      · exact fun _ hquote => absurd hquote hc

/-- A quote that is written, like ink, is on one line. -/
theorem isBreak_of_mem_doubled {run : List Char} (h : ∀ c ∈ run, IsInk c) :
    ∀ c ∈ run.flatMap doubled, isBreak c = false := by
  intro c hc
  obtain ⟨d, hd, hc⟩ := List.mem_flatMap.mp hc
  unfold doubled at hc
  split at hc
  · obtain rfl : c = '\'' := by simpa using hc
    rfl
  · obtain rfl : c = d := by simpa using hc
    exact (h c hd).2

/-- A run of ink between single quotes is read on its line. -/
theorem scanRun_ink {run : List Char} (h : ∀ c ∈ run, IsInk c) {rest : List Char}
    (hrest : singleRun rest = ([], 0)) (start m : Mark) :
    scanRun true start ⟨run.flatMap doubled ++ rest, m⟩ =
      .ok ⟨run, ⟨rest, m.past (run.flatMap doubled)⟩, false⟩ := by
  have hskip := Cursor.skip_append (isBreak_of_mem_doubled h) rest m
  rw [scanRun, if_pos rfl, singleRun_ink h hrest]
  simp only [hskip]

/-- A quote without a second one ends the run. -/
theorem singleRun_quote {rest : List Char} (h : ∀ c ∈ rest.head?, c ≠ '\'') :
    singleRun ('\'' :: rest) = ([], 0) := by
  rw [singleRun]
  · rfl
  · rintro rest - rfl
    exact h '\'' rfl rfl

theorem singleRun_space {c : Char} (h : (isBlank c || isBreak c) = true) (rest : List Char) :
    singleRun (c :: rest) = ([], 0) := by
  rw [singleRun]
  · simp [h]
  · rintro rest rfl
    exact absurd h (by decide)

/-- Behind a gap stands ink, or the closing quote. -/
theorem head?_singleBody (indent : Nat) {more : List Char} (h : ∀ c ∈ more.head?, IsInk c)
    (rest : List Char) :
    ∀ c ∈ (Writer.singleBody indent false more ++ '\'' :: rest).head?,
      isBlank c = false ∧ isBreak c = false := by
  intro c hc
  cases more with
  | nil =>
    obtain rfl : '\'' = c := by simpa [Writer.singleBody] using hc
    exact ⟨rfl, rfl⟩
  | cons d more =>
    have hd : IsInk d := h d rfl
    have hd' : isBreak d = false := hd.2
    -- also a quote that is doubled starts with itself
    have hhead : d = c := by
      by_cases hquote : d = '\''
      · subst hquote
        simpa [Writer.singleBody, hd'] using hc
      · simpa [Writer.singleBody, hd', hquote] using hc
    exact hhead ▸ hd

/-- A text between single quotes is read back. -/
theorem runs_lined {start : Mark} {indent : Nat} (hi : 0 < indent) {cs rest : List Char}
    (h : Lined cs) (hrest : ∀ c ∈ rest.head?, c ≠ '\'') {m : Mark} (hm : 0 < m.column) {bound : Nat}
    (hb : cs.length < bound) :
    runs true start bound ⟨Writer.singleBody indent false cs ++ '\'' :: rest, m⟩ =
      .ok (cs, ⟨'\'' :: rest, m.past (Writer.singleBody indent false cs)⟩) := by
  induction bound generalizing cs m with
  | zero => omega
  | succ bound ih =>
    obtain hrun | ⟨run, more, hrun, hhead, hmore, hcs⟩ := h.cases
    · have hbody : Writer.singleBody indent false (cs ++ []) = cs.flatMap doubled ++ [] :=
        singleBody_ink (fun c hc => (hrun c hc).2) []
      rw [List.append_nil, List.append_nil] at hbody
      rw [hbody]
      exact runs_last hm (by simp) (scanRun_ink hrun (singleRun_quote hrest) start m) rfl bound
    · -- a gap of blanks, or one of line breaks, stands between this run and the next
      have hnext := head?_singleBody indent hhead rest
      have hline := isBreak_of_mem_doubled hrun
      obtain ⟨n, rfl⟩ | ⟨b, breaks, rfl, hbreaks⟩ := hcs
      · rw [singleBody_ink (fun c hc => (hrun c hc).2), singleBody_blanks]
        have hgap := Gap.scan_spaces none (n + 1) hnext (m.past (run.flatMap doubled))
        have hcolumn : 0 < ((m.past (run.flatMap doubled)).past (blanks (n + 1))).column := by
          rw [Mark.past_of_sameLine m hline, Mark.past_of_sameLine _ isBreak_of_mem_blanks]
          exact Nat.add_pos_left (Nat.add_pos_left hm _) _
        have hshorter : more.length < bound := by
          simp only [List.length_append, length_blanks] at hb
          omega
        rw [List.append_assoc, List.append_assoc]
        refine (runs_gap hm (by simp) (scanRun_ink hrun (singleRun_space rfl _) start m)
          (by simp) hgap bound).trans ?_
        rw [ih hmore hcolumn hshorter]
        simp only [Mark.past_append, List.append_assoc]
        rfl
      · have hgap := Gap.scan_lines none (fun c hc => (hbreaks c hc).1) indent hnext
          (m.past (run.flatMap doubled))
        have hcolumn : 0 < ((m.past (run.flatMap doubled)).past
            (b :: (breaks ++ blanks indent))).column := by
          rw [Mark.column_past_breaks _ (fun c hc => (hbreaks c hc).1.isBreak) isBreak_of_mem_blanks,
            length_blanks]
          exact hi
        have hshorter : more.length < bound := by
          simp only [List.length_append, List.length_cons] at hb
          omega
        have hb : (isBlank b || isBreak b) = true := by
          simp [(hbreaks b List.mem_cons_self).1.isBreak]
        have hquote : b ≠ '\'' := by
          rintro rfl
          exact absurd hb (by decide)
        -- the line breaks of such a text are none that fold
        have htext : (Gap.ofBreaks b breaks).text = b :: breaks := by
          simp [Gap.ofBreaks, Gap.text, (hbreaks b List.mem_cons_self).2]
        rw [singleBody_ink (fun c hc => (hrun c hc).2), singleBody_breaks false
          (fun c hc => (hbreaks c hc).1.isBreak) (fun c hc => (hhead c hc).2), List.append_assoc,
          List.cons_append, List.append_assoc, List.append_assoc]
        refine (runs_gap hm (by simp) (scanRun_ink hrun (singleRun_space hb _) start m)
          (by simpa using hquote) hgap bound).trans ?_
        rw [ih hmore hcolumn hshorter, htext]
        rw [← Mark.past_append, ← Mark.past_append]
        simp only [List.append_assoc, List.cons_append]
        rfl

/-- Between single quotes no character is left out, so that the text bounds the reader's steps. -/
theorem length_le_singleBody (indent : Nat) (begun : Bool) (cs : List Char) :
    cs.length ≤ (Writer.singleBody indent begun cs).length := by
  induction cs generalizing begun with
  | nil => exact Nat.zero_le _
  | cons c cs ih =>
    have htrue := ih true
    have hfalse := ih false
    rw [Writer.singleBody]
    split <;> simp only [List.length_append, List.length_cons]
    · omega
    · have : 1 ≤ (if c = '\'' then ['\'', '\''] else [c]).length := by split <;> simp
      omega

/-- A text that fits single quotes is read back. -/
theorem scan_single {indent : Nat} (hi : 0 < indent) {cs rest : List Char}
    (h : Writer.fitsSingle cs = true) (hn : cs.contains '\n' = false)
    (hrest : ∀ c ∈ rest.head?, c ≠ '\'') (m : Mark) :
    let text := '\'' :: Writer.singleBody indent false cs ++ ['\'']
    scan true ⟨text ++ rest, m⟩ = .ok (cs, ⟨rest, m.past text⟩) := by
  have hquote : isBreak '\'' = false := rfl
  have hm : 0 < (m.past ['\'']).column := by simp [Mark.past, hquote]
  have hlength := length_le_singleBody indent false cs
  -- the reader has a step for every run, for what is written is no shorter than the text
  have hbound : cs.length <
      ('\'' :: (Writer.singleBody indent false cs ++ '\'' :: rest)).length + 1 := by
    simp only [List.length_cons, List.length_append]
    omega
  intro text
  have htext : text ++ rest = '\'' :: (Writer.singleBody indent false cs ++ '\'' :: rest) := by
    simp [text]
  rw [htext, scan, Cursor.skip_one hquote, runs_lined hi (lined_of_fitsSingle h hn) hrest hm hbound]
  simp only [bind, Except.bind, Cursor.skip_one hquote]
  simp only [text, Mark.past_append]
  rfl

/-! ## Double quotes -/

/-- Between double quotes a run is read up to the next blank or the closing quote. -/
theorem doubleRun_text {run rest : List Char} {b : Char} (h : ∀ c ∈ run, c ≠ ' ')
    (hb : (isBlank b || isBreak b || b == '"') = true) (start m : Mark) {bound : Nat}
    (hbound : run.length < bound) :
    doubleRun start bound ⟨run.flatMap Writer.escapeChar ++ b :: rest, m⟩ =
      .ok ⟨run, ⟨b :: rest, m.past (run.flatMap Writer.escapeChar)⟩, false⟩ := by
  obtain ⟨bound, rfl⟩ := Nat.exists_eq_succ_of_ne_zero (Nat.ne_of_gt (Nat.zero_lt_of_lt hbound))
  induction run generalizing m bound with
  | nil =>
    rw [List.flatMap_nil, List.nil_append, doubleRun]
    simp only [hb, if_true]
    rfl
  | cons c run ih =>
    -- one step for each character, however it is written
    have hc := h c List.mem_cons_self
    rw [List.length_cons] at hbound
    obtain ⟨bound, rfl⟩ : ∃ k, bound = k + 1 := ⟨bound - 1, by omega⟩
    rw [List.flatMap_cons, List.append_assoc, doubleRun_escapeChar hc,
      ih (fun d hd => h d (List.mem_cons_of_mem c hd)) _ _ (by omega), Mark.past_append]
    rfl

/-- Every character is written by at least one. -/
theorem length_le_flatMap_escapeChar (cs : List Char) :
    cs.length ≤ (cs.flatMap Writer.escapeChar).length := by
  induction cs with
  | nil => exact Nat.zero_le _
  | cons c cs ih =>
    have hc : 1 ≤ (Writer.escapeChar c).length := by
      cases escaped_escapeChar c with
      | itself h => simp [h]
      | letter x h => simp [h]
      | code x width h => simp [h]
    rw [List.flatMap_cons, List.length_append, List.length_cons]
    omega

theorem isBreak_of_mem_flatMap_escapeChar {cs : List Char} :
    ∀ c ∈ cs.flatMap Writer.escapeChar, isBreak c = false := by
  intro c hc
  obtain ⟨d, -, hc⟩ := List.mem_flatMap.mp hc
  exact isBreak_of_mem_escapeChar c hc

/-- A run of a text between double quotes, with a blank or the closing quote behind it. -/
theorem scanRun_text {run rest : List Char} {b : Char} (h : ∀ c ∈ run, c ≠ ' ')
    (hb : (isBlank b || isBreak b || b == '"') = true) (start m : Mark) :
    scanRun false start ⟨run.flatMap Writer.escapeChar ++ b :: rest, m⟩ =
      .ok ⟨run, ⟨b :: rest, m.past (run.flatMap Writer.escapeChar)⟩, false⟩ := by
  have hlength := length_le_flatMap_escapeChar run
  rw [scanRun, if_neg Bool.false_ne_true]
  refine doubleRun_text h hb start m ?_
  rw [List.length_append, List.length_cons]
  omega

theorem flatMap_escapeChar_blanks (n : Nat) : (blanks n).flatMap Writer.escapeChar = blanks n := by
  induction n with
  | zero => rfl
  | succ n ih => exact congrArg (' ' :: ·) ih

/-- Behind the blanks stands ink, or the closing quote. -/
theorem head?_flatMap_escapeChar {cs : List Char} (h : ∀ c ∈ cs.head?, c ≠ ' ') (rest : List Char) :
    ∀ c ∈ (cs.flatMap Writer.escapeChar ++ '"' :: rest).head?,
      isBlank c = false ∧ isBreak c = false := by
  cases cs with
  | nil =>
    intro c hc
    obtain rfl : '"' = c := by simpa using hc
    exact ⟨rfl, rfl⟩
  | cons d cs =>
    rw [List.flatMap_cons]
    intro c hc
    cases escaped_escapeChar d with
    | itself he hbreak htab =>
      obtain rfl : d = c := by simpa [he] using hc
      exact ⟨by simp [isBlank, h d rfl, htab], hbreak⟩
    | letter x he =>
      obtain rfl : '\\' = c := by simpa [he] using hc
      exact ⟨rfl, rfl⟩
    | code x width he =>
      obtain rfl : '\\' = c := by simpa [he] using hc
      exact ⟨rfl, rfl⟩

/-- A text between double quotes is read back. -/
theorem runs_escaped {start : Mark} {cs rest : List Char} {m : Mark} (hm : 0 < m.column)
    {bound : Nat} (hb : cs.length < bound) :
    runs false start bound ⟨cs.flatMap Writer.escapeChar ++ '"' :: rest, m⟩ =
      .ok (cs, ⟨'"' :: rest, m.past (cs.flatMap Writer.escapeChar)⟩) := by
  induction bound generalizing cs m with
  | zero => omega
  | succ bound ih =>
    -- blanks are the only white space that is not escaped
    obtain ⟨run, more, rfl, hrun, hmore⟩ := exists_span (· != ' ') cs
    have hrun : ∀ c ∈ run, c ≠ ' ' := fun c hc => by simpa using hrun c hc
    cases more with
    | nil =>
      rw [List.append_nil]
      exact runs_last hm (by simp) (scanRun_text hrun rfl start m) rfl bound
    | cons b more =>
      obtain rfl : b = ' ' := by simpa using hmore
      obtain ⟨n, more, rfl, hhead⟩ := exists_blanks more
      have hgap := Gap.scan_spaces none (n + 1) (head?_flatMap_escapeChar hhead rest)
        (m.past (run.flatMap Writer.escapeChar))
      have hcolumn : 0 < ((m.past (run.flatMap Writer.escapeChar)).past (blanks (n + 1))).column := by
        rw [Mark.past_of_sameLine m isBreak_of_mem_flatMap_escapeChar,
          Mark.past_of_sameLine _ isBreak_of_mem_blanks]
        exact Nat.add_pos_left (Nat.add_pos_left hm _) _
      have hshorter : more.length < bound := by
        simp only [List.length_append, List.length_cons, length_blanks] at hb
        omega
      have htext : (run ++ ' ' :: (blanks n ++ more)).flatMap Writer.escapeChar =
          run.flatMap Writer.escapeChar ++ (blanks (n + 1) ++ more.flatMap Writer.escapeChar) := by
        rw [← List.cons_append, List.flatMap_append, List.flatMap_append]
        exact congrArg (fun cs => _ ++ (cs ++ _)) (flatMap_escapeChar_blanks (n + 1))
      rw [htext, List.append_assoc, List.append_assoc]
      refine (runs_gap hm (by simp) (scanRun_text hrun rfl start m) (by simp) hgap bound).trans ?_
      rw [ih hcolumn hshorter]
      simp only [Mark.past_append, Gap.text, Bool.false_eq_true, if_false, List.append_assoc]
      rfl

/-- Any text is read back from between double quotes. -/
theorem scan_double (cs rest : List Char) (m : Mark) :
    let text := '"' :: cs.flatMap Writer.escapeChar ++ ['"']
    scan false ⟨text ++ rest, m⟩ = .ok (cs, ⟨rest, m.past text⟩) := by
  have hquote : isBreak '"' = false := rfl
  have hm : 0 < (m.past ['"']).column := by simp [Mark.past, hquote]
  have hlength := length_le_flatMap_escapeChar cs
  -- the reader has a step for every run, for what is written is no shorter than the text
  have hbound : cs.length < ('"' :: (cs.flatMap Writer.escapeChar ++ '"' :: rest)).length + 1 := by
    simp only [List.length_cons, List.length_append]
    omega
  intro text
  have htext : text ++ rest = '"' :: (cs.flatMap Writer.escapeChar ++ '"' :: rest) := by
    simp [text]
  rw [htext, scan, Cursor.skip_one hquote, runs_escaped hm hbound]
  simp only [bind, Except.bind, Cursor.skip_one hquote]
  simp only [text, Mark.past_append]
  rfl

end Quoted

end AmountPad.Yaml
