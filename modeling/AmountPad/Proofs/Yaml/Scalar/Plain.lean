import Mathlib
import AmountPad.Proofs.Yaml.Cursor
import AmountPad.Yaml.Scalar.Plain

/-!
# Plain scalars are read back

A text that fits a plain scalar is a row of words with blanks between them. No word ends in a colon
and none starts with a number sign, so that a reader goes on to the last word, and it is the line
break behind that word which ends the scalar.

* `Worded` — what is left of such a text at the start of a word.

Main results:

* `worded_of_fitsPlain` — texts that fit a plain scalar are rows of words;
* `Plain.scan_fitsPlain` — a plain scalar is read back, and so is the way to the next line;
* `Plain.scan_name` — a word with a colon behind it is read up to the colon.
-/

namespace AmountPad.Yaml

open Writer (blanks endsInside)

/-! ## Words -/

/-- What is left of a row of words at the start of one of them. -/
structure Worded (cs : List Char) : Prop where
  /-- Blanks are the only white space. -/
  spaced : ∀ c ∈ cs, isBreak c = false ∧ c ≠ '\t'
  starts : ∃ c rest, cs = c :: rest ∧ isBlank c = false ∧ c ≠ '#'
  inside : ∃ afterSpace, endsInside afterSpace cs = false
  ends : cs.getLast? ≠ some ' '

/-- A scalar does not end at a character that is neither a colon in front of white space nor a hash
behind it. -/
theorem endsInside_cons (afterSpace : Bool) (c : Char) (rest : List Char) :
    endsInside afterSpace (c :: rest) = false ↔
      (c = ':' → atSpace rest = false) ∧ (c = '#' → afterSpace = false) ∧
        endsInside (isBlank c || isBreak c) rest = false := by
  rw [endsInside]
  cases afterSpace <;> by_cases hc : c = ':' <;> by_cases hn : c = '#' <;> simp [hc, hn]

/-- Behind white space inside a text that a plain scalar holds, it holds what is left. -/
theorem endsInside_behind {afterSpace : Bool} {before : List Char} {c : Char} {rest : List Char}
    (h : endsInside afterSpace (before ++ c :: rest) = false) :
    endsInside (isBlank c || isBreak c) rest = false := by
  induction before generalizing afterSpace with
  | nil => exact ((endsInside_cons afterSpace c rest).mp h).2.2
  | cons d before ih => exact ih ((endsInside_cons _ _ _).mp h).2.2

/-- A text that fits a plain scalar is a row of words. -/
theorem worded_of_fitsPlain {cs : List Char} (h : Writer.fitsPlain cs = true) (hne : cs ≠ []) :
    Worded cs := by
  simp only [Writer.fitsPlain, Bool.not_eq_true', Bool.or_eq_false_iff, Writer.needsDouble,
    Writer.hasAtEdge] at h
  obtain ⟨⟨⟨⟨⟨hprintable, -⟩, hbreaks⟩, hhead, hlast⟩, hother⟩, hinside⟩ := h
  obtain ⟨c, rest, rfl⟩ := List.exists_cons_of_ne_nil hne
  simp only [List.any_eq_false, Bool.not_eq_true'] at hprintable hbreaks
  -- a tab is not printable as it is
  have hnotab : ∀ d ∈ c :: rest, d ≠ '\t' := by
    rintro d hd rfl
    exact absurd (hprintable _ hd) (by decide)
  refine ⟨fun d hd => ⟨by simpa using hbreaks d hd, hnotab d hd⟩, ⟨c, rest, rfl, ?_, ?_⟩, ⟨_, hinside⟩,
    ?_⟩
  · have hspace : c ≠ ' ' := by simpa [Writer.isSpace] using hhead
    have htab : c ≠ '\t' := hnotab c List.mem_cons_self
    simp [isBlank, hspace, htab]
  · rintro rfl
    simp [Writer.startsOther, Writer.reserved] at hother
  · intro hspace
    rw [hspace] at hlast
    exact absurd hlast (by decide)

/-- A row of words is one word, or a word, blanks and a row of words. -/
theorem Worded.cases {cs : List Char} (h : Worded cs) :
    (∀ c ∈ cs, IsInk c) ∨ ∃ word n rest, cs = word ++ (blanks (n + 1) ++ rest) ∧
      (∀ c ∈ word, IsInk c) ∧ word ≠ [] ∧ Worded rest := by
  obtain ⟨hspaced, ⟨c, cs', rfl, hc, -⟩, ⟨afterSpace, hinside⟩, hends⟩ := h
  obtain ⟨word, more, hsplit, hword, hbehind⟩ := exists_span (fun d => !isBlank d) (c :: cs')
  have hne : word ≠ [] := by
    rintro rfl
    rw [List.nil_append] at hsplit
    rw [← hsplit] at hbehind
    simp [hc] at hbehind
  rw [hsplit] at hspaced hinside hends ⊢
  have hword : ∀ d ∈ word, IsInk d := fun d hd =>
    ⟨by simpa using hword d hd, (hspaced d (List.mem_append_left more hd)).1⟩
  cases more with
  | nil => exact .inl (by simpa using hword)
  | cons b more =>
    -- behind the first word comes a blank, for there are no tabs
    have hb : b = ' ' := by
      have htab := (hspaced b (by simp)).2
      simpa [isBlank, htab] using hbehind
    subst hb
    obtain ⟨n, rest, rfl, hrest⟩ := exists_blanks more
    refine .inr ⟨word, n, rest, rfl, hword, hne, ?_⟩
    have hlast : rest ≠ [] := by
      rintro rfl
      apply hends
      have hrow : ' ' :: (blanks n ++ []) = List.replicate (n + 1) ' ' := by
        rw [List.append_nil]
        rfl
      rw [hrow, List.getLast?_append, List.getLast?_replicate]
      rfl
    obtain ⟨d, rest, rfl⟩ := List.exists_cons_of_ne_nil hlast
    have hd : d ≠ ' ' := hrest d rfl
    have hbefore : word ++ ' ' :: (blanks n ++ d :: rest) =
        (word ++ blanks n) ++ ' ' :: d :: rest := by
      rw [List.append_assoc, ← blanks_succ_append]
      rfl
    rw [hbefore] at hspaced hinside hends
    have hfrom := endsInside_behind hinside
    have htab := (hspaced d (by simp)).2
    refine ⟨fun x hx => hspaced x ?_, ⟨d, rest, rfl, by simp [isBlank, hd, htab], ?_⟩, ⟨_, hfrom⟩, ?_⟩
    · exact List.mem_append_right _ (List.mem_cons_of_mem _ hx)
    · rintro rfl
      exact absurd (((endsInside_cons _ _ _).mp hfrom).2.1 rfl) (by decide)
    · simpa using hends

/-- Names of members: letters, digits and marks, with no dash in front, and short enough for a key. -/
def IsName (cs : List Char) : Prop :=
  ∃ c rest, cs = c :: rest ∧ (∀ d ∈ c :: rest, isWordChar d = true) ∧ c ≠ '-' ∧
    (c :: rest).length ≤ 1024

namespace Plain

/-! ## Reading -/

/-- A word is read up to the white space behind it. -/
theorem run_word {word more rest : List Char} {afterSpace : Bool} (hword : ∀ c ∈ word, IsInk c)
    (hinside : endsInside afterSpace (word ++ more) = false) (hmore : atSpace more = true)
    (hrest : atSpace rest = true) : run false (word ++ rest) = (word, false) := by
  induction word generalizing afterSpace with
  | nil =>
    cases rest with
    | nil => rfl
    | cons c rest =>
      have hc : (isBlank c || isBreak c) = true := hrest
      rw [List.nil_append, run, if_pos hc]
  | cons c word ih =>
    obtain ⟨hblank, hbreak⟩ := hword c List.mem_cons_self
    obtain ⟨hcolon, -, hinside⟩ := (endsInside_cons _ _ _).mp hinside
    -- a colon has another character of the word behind it
    have hgoes : (c == ':' && atSpace (word ++ rest)) = false := by
      rw [Bool.and_eq_false_iff, beq_eq_false_iff_ne]
      refine (ne_or_eq c ':').imp id fun hc => ?_
      cases word with
      | nil =>
        have hnever : atSpace more = false := hcolon hc
        rw [hmore] at hnever
        exact absurd hnever (by decide)
      | cons d word => exact hcolon hc
    have hih := ih (fun d hd => hword d (List.mem_cons_of_mem _ hd)) hinside
    rw [List.cons_append, run]
    simp only [hblank, hbreak, hgoes, hih, Bool.or_false, Bool.false_and, Bool.false_eq_true,
      if_false]

/-- A scalar goes on at a word, wherever that is on its line but at the start. -/
theorem isOver_of_ink {c : Char} (hc : c ≠ '#') {rest : List Char} {m : Mark} (hm : 0 < m.column) :
    isOver ⟨c :: rest, m⟩ = false := by
  have hmark : 0 < (⟨c :: rest, m⟩ : Cursor).mark.column := hm
  rw [isOver, Cursor.atMarker_of_column_pos hmark, Cursor.atMarker_of_column_pos hmark]
  simpa using hc

/-- A word and the gap behind it, which may lead to where the scalar is over. -/
theorem runs_of_word {least : Nat} (start : Mark) {word rest : List Char} {b : Char}
    (hword : ∀ c ∈ word, IsInk c) (hne : word ≠ [])
    (hrun : run false (word ++ b :: rest) = (word, false)) (hb : (isBlank b || isBreak b) = true)
    (gap g : Gap) (stop m : Mark) (hgoes : isOver ⟨word ++ b :: rest, m⟩ = false) {c : Cursor}
    (hgap : Gap.scan (some least) (b :: rest).length {} ⟨b :: rest, m.past word⟩ = (some g, c))
    (bound : Nat) :
    runs false least start (bound + 1) gap stop ⟨word ++ b :: rest, m⟩ =
      if c.mark.column < least then .ok ⟨gap.text ++ word, m.past word, c, g.broken⟩
      else do
        let more ← runs false least start bound g (m.past word) c
        return { more with text := gap.text ++ word ++ more.text } := by
  have hskip := Cursor.skip_append (fun c hc => (hword c hc).2) (b :: rest) m
  rw [runs, hgoes]
  simp only [hrun, hskip, if_neg hne, atSpace, hb, hgap, Bool.false_eq_true, if_false, Bool.not_true,
    reduceCtorEq, decide_false, Bool.or_false, Bool.not_false, Bool.true_and, decide_eq_true_eq]
  rfl

/-- Behind the last word, the next line is not indented enough to go on. -/
theorem runs_lastWord {least k : Nat} (hk : k < least) (start : Mark) {word tail : List Char}
    (htail : StartsToken tail) (hword : ∀ c ∈ word, IsInk c) (h : Worded word) (gap : Gap)
    (stop m : Mark) (hm : 0 < m.column) (bound : Nat) :
    runs false least start (bound + 1) gap stop ⟨word ++ '\n' :: (blanks k ++ tail), m⟩ =
      .ok ⟨gap.text ++ word, m.past word, ⟨tail, m.past (word ++ '\n' :: blanks k)⟩, true⟩ := by
  obtain ⟨afterSpace, hinside⟩ := h.inside
  rw [← List.append_nil word] at hinside
  have hrun : run false (word ++ '\n' :: (blanks k ++ tail)) = (word, false) :=
    run_word hword hinside rfl rfl
  have hbreak : ∀ c ∈ ['\n'], IsTextBreak c := by simp [IsTextBreak]
  -- the gap leads over the line break to the next line
  have hgap := Gap.scan_lines (some least) hbreak k
    (fun c hc => ⟨(htail c hc).1, (htail c hc).2.1⟩) (m.past word)
  simp only [List.nil_append] at hgap
  have hcolumn : ((m.past word).past ('\n' :: blanks k)).column < least := by
    rw [← List.nil_append ('\n' :: blanks k),
      Mark.column_past_line _ _ (show isBreak '\n' = true from rfl) isBreak_of_mem_blanks,
      length_blanks]
    exact hk
  obtain ⟨c, rest, rfl, -, hc⟩ := h.starts
  rw [runs_of_word start hword (List.cons_ne_nil c rest) hrun rfl gap _ stop m
    (isOver_of_ink hc hm) hgap, if_pos hcolumn, Mark.past_append]
  rfl

/-- The words of a scalar are read to the end of the line, and so is the way to the next line. -/
theorem runs_worded {least k : Nat} (hk : k < least) (start : Mark) {tail : List Char}
    (htail : StartsToken tail) {cs : List Char} (h : Worded cs) (gap : Gap) (stop m : Mark)
    (hm : least ≤ m.column) {bound : Nat} (hb : cs.length ≤ bound) :
    runs false least start bound gap stop ⟨cs ++ '\n' :: (blanks k ++ tail), m⟩ =
      .ok ⟨gap.text ++ cs, m.past cs, ⟨tail, m.past (cs ++ '\n' :: blanks k)⟩, true⟩ := by
  -- one word a round; the gap in front of it becomes part of the text
  induction bound generalizing cs gap stop m with
  | zero =>
    obtain ⟨c, rest, rfl, -⟩ := h.starts
    exact absurd hb (by simp)
  | succ bound ih =>
    obtain hword | ⟨word, n, rest, rfl, hword, hne, hrest⟩ := h.cases
    · exact runs_lastWord hk start htail hword h gap stop m (by omega) bound
    obtain ⟨afterSpace, hinside⟩ := h.inside
    have hgoes : isOver ⟨word ++ (blanks (n + 1) ++ (rest ++ '\n' :: (blanks k ++ tail))), m⟩ =
        false := by
      obtain ⟨c, more, hcs, -, hc⟩ := h.starts
      rw [← List.append_assoc, ← List.append_assoc, List.append_assoc word, hcs]
      exact isOver_of_ink hc (by omega)
    have hrun : run false (word ++ (blanks (n + 1) ++ (rest ++ '\n' :: (blanks k ++ tail)))) =
        (word, false) := run_word hword hinside rfl rfl
    -- the blanks behind the word are kept for the next one
    have hnext : ∀ c ∈ (rest ++ '\n' :: (blanks k ++ tail)).head?,
        isBlank c = false ∧ isBreak c = false := by
      obtain ⟨c, rest, rfl, hc, -⟩ := hrest.starts
      intro d hd
      obtain rfl : c = d := by simpa using hd
      exact ⟨hc, (hrest.spaced c List.mem_cons_self).1⟩
    have hgap := Gap.scan_spaces (some least) (n + 1) hnext (m.past word)
    have hline : ∀ c ∈ word ++ blanks (n + 1), isBreak c = false := fun c hc =>
      (List.mem_append.mp hc).elim (fun hc => (hword c hc).2) (isBreak_of_mem_blanks c)
    have hcolumn : least ≤ ((m.past word).past (blanks (n + 1))).column := by
      rw [← Mark.past_append, Mark.past_of_sameLine m hline]
      exact Nat.le_add_right_of_le hm
    have hshorter : rest.length ≤ bound := by
      have := List.length_pos_of_ne_nil hne
      simp only [List.length_append, length_blanks] at hb
      omega
    have hmore := ih hrest ⟨blanks (n + 1), [], [], false⟩ (m.past word)
      ((m.past word).past (blanks (n + 1))) hcolumn hshorter
    rw [List.append_assoc, List.append_assoc]
    refine (runs_of_word start hword hne hrun rfl gap _ stop m hgoes hgap bound).trans ?_
    rw [if_neg (Nat.not_lt.mpr hcolumn)]
    rw [hmore]
    simp only [Mark.past_append, List.append_assoc]
    rfl

/-- A text that fits a plain scalar is read back, up to the token on the next line. -/
theorem scan_fitsPlain {cs : List Char} (h : Writer.fitsPlain cs = true) (hne : cs ≠ [])
    {indent k : Nat} (hk : k ≤ indent) {tail : List Char} (htail : StartsToken tail) {m : Mark}
    (hm : indent < m.column) :
    scan false indent ⟨cs ++ '\n' :: (blanks k ++ tail), m⟩ =
      .ok ⟨cs, m.past cs, ⟨tail, m.past (cs ++ '\n' :: blanks k)⟩, true⟩ := by
  have hleast : ((indent : Int) + 1).toNat = indent + 1 := by omega
  rw [scan, hleast]
  refine runs_worded (Nat.lt_succ_of_le hk) m htail (worded_of_fitsPlain h hne) {} m m hm ?_
  rw [List.length_append]
  omega

/-! ## Names -/

theorem atMarker_of_ne {c x : Char} (h : c ≠ x) (rest : List Char) (m : Mark) :
    (⟨c :: rest, m⟩ : Cursor).atMarker x = false := by
  rw [Cursor.atMarker, Bool.and_eq_false_iff]
  right
  split
  · rename_i heq
    simp only [List.cons.injEq] at heq
    obtain ⟨rfl, -⟩ := heq
    simp [h]
  · rfl

theorem ne_of_isWordChar {c : Char} (h : isWordChar c = true) {d : Char}
    (hd : isWordChar d = false) : c ≠ d := by
  rintro rfl
  rw [h] at hd
  exact absurd hd (by decide)

theorem isInk_of_isWordChar {c : Char} (h : isWordChar c = true) : IsInk c := by
  have hother : ∀ d, isWordChar d = false → c ≠ d := fun d hd => ne_of_isWordChar h hd
  simp [IsInk, isBlank, isBreak, hother ' ' rfl, hother '\t' rfl, hother '\r' rfl, hother '\n' rfl,
    hother '\u0085' rfl, hother '\u2028' rfl, hother '\u2029' rfl]

/-- A name is read up to its colon. -/
theorem run_name {cs rest : List Char} (h : ∀ c ∈ cs, isWordChar c = true)
    (hrest : atSpace rest = true) : run false (cs ++ ':' :: rest) = (cs, false) := by
  induction cs with
  | nil =>
    have hcolon : (isBlank ':' || isBreak ':') = false := rfl
    rw [List.nil_append, run, hcolon]
    simp [hrest]
  | cons c cs ih =>
    have hc := h c List.mem_cons_self
    obtain ⟨hblank, hbreak⟩ := isInk_of_isWordChar hc
    have hcolon : c ≠ ':' := ne_of_isWordChar hc rfl
    rw [List.cons_append, run, ih fun d hd => h d (List.mem_cons_of_mem _ hd)]
    simp [hblank, hbreak, hcolon]

/-- A name ends at the colon behind it. -/
theorem scan_name {cs rest : List Char} (h : IsName cs) (hrest : atSpace rest = true) (indent : Int)
    (m : Mark) :
    scan false indent ⟨cs ++ ':' :: rest, m⟩ =
      .ok ⟨cs, m.past cs, ⟨':' :: rest, m.past cs⟩, false⟩ := by
  obtain ⟨c, cs, rfl, hword, hdash, -⟩ := h
  have hc := hword c List.mem_cons_self
  have hgoes : isOver ⟨c :: (cs ++ ':' :: rest), m⟩ = false := by
    rw [isOver, atMarker_of_ne hdash, atMarker_of_ne (ne_of_isWordChar hc (d := '.') rfl)]
    simpa using ne_of_isWordChar hc (d := '#') rfl
  -- the word is the whole scalar, for the colon is no gap
  have hrun : run false (c :: (cs ++ ':' :: rest)) = (c :: cs, false) := run_name hword hrest
  have hskip := Cursor.skip_append (fun d hd => (isInk_of_isWordChar (hword d hd)).2) (':' :: rest) m
  rw [List.cons_append] at hskip ⊢
  rw [scan, List.length_cons, runs, hgoes]
  simp only [hrun, hskip, if_neg (List.cons_ne_nil c cs), Bool.false_eq_true, if_false]
  rfl

end Plain

end AmountPad.Yaml
