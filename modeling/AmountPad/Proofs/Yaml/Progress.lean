import Mathlib
import AmountPad.Proofs.Yaml.Cursor
import AmountPad.Yaml.TokenList

/-!
# From one token to the next

Outside brackets, a reading is told by the symbols so far, the columns of the open block collections
and what comes next. Between two tokens it passes white space, gives up what is no key any more, and
closes the collections that are deeper than the next token.

* `Progress.Stands` — where a reading stands in front of a token or of blanks;
* `Progress.Rests` — where it stands behind a scalar that may still turn out to be a key;
* `Progress.AtLine` — where it stands at the start of a line, whatever that line closes;
* `Progress.Hop` — a step from one token to the next.

Main results:

* `Progress.Stands.arrive`, `Progress.Rests.arrive` — the way over blanks, and to another line;
* `Progress.hop_of_blanks`, `Progress.hop_of_line`, `Progress.hop_of_passed` — a token and the way to
  the next one;
* `Progress.read_of_hops` — a whole text is read hop by hop.
-/

namespace AmountPad.Yaml

open Writer (blanks)

namespace Progress

/-! ## Where a reading stands -/

/-- Where a reading stands outside brackets: the symbols so far, the columns of the open block
collections, the innermost one first, and what comes next. -/
structure Stands (p : Progress) (ss : List Symbol) (stack : List Nat) (allowed : Bool)
    (rest : List Char) : Prop where
  symbols : p.tokens.reverse.map Token.symbol = ss
  count : p.count = p.tokens.length
  blocks : p.indent :: p.outer = stack.map Int.ofNat ++ [-1]
  candidates : p.candidates = [none]
  allowed : p.keyAllowed = allowed
  rest : p.cursor.rest = rest

/-- The column of the innermost block collection, which is less than any where there is none. -/
def top : List Nat → Int
  | [] => -1
  | i :: _ => i

variable {p : Progress} {ss : List Symbol} {stack : List Nat} {allowed : Bool} {rest : List Char}

/-- The indentation of a reading is the column of its innermost block collection. -/
theorem Stands.indent (h : p.Stands ss stack allowed rest) : p.indent = top stack := by
  have hblocks := h.blocks
  cases stack with
  | nil => simpa [top] using (List.cons.inj hblocks).1
  | cons i stack => simpa [top] using (List.cons.inj hblocks).1

theorem Stands.inFlow (h : p.Stands ss stack allowed rest) : p.inFlow = false := by
  simp [Progress.inFlow, h.candidates]

/-! ## White space -/

/-- A byte order mark is neither a blank nor the start of a token. -/
theorem head?_ne_mark {n : Nat} (hrest : StartsToken rest) :
    (blanks n ++ rest).head? ≠ some '\ufeff' := by
  intro h
  cases n with
  | zero => exact (hrest '\ufeff' h).2.2.2 rfl
  | succ n => exact absurd (Option.some.inj h) (by decide)

/-- Blanks are passed up to the next token. -/
theorem toNextToken_blanks {n : Nat} (h : p.cursor.rest = blanks n ++ rest)
    (hrest : StartsToken rest) (bound : Nat) :
    p.toNextToken (bound + 1) =
      { p with cursor := ⟨rest, p.cursor.mark.past (blanks n)⟩ } := by
  have hmark : ¬ (p.cursor.mark.column = 0 ∧ p.cursor.rest.head? = some '\ufeff') := by
    rw [h]
    exact fun hand => head?_ne_mark hrest hand.2
  have hspace : ∀ c ∈ blanks n, (c == ' ' || (p.inFlow || !p.keyAllowed) && c == '\t') = true := by
    intro c hc
    rw [List.eq_of_mem_replicate hc]
    rfl
  have hstop : ∀ c ∈ rest.head?, (c == ' ' || (p.inFlow || !p.keyAllowed) && c == '\t') = false := by
    intro c hc
    obtain ⟨hblank, -⟩ := hrest c hc
    simp only [isBlank, Bool.or_eq_false_iff] at hblank
    simp [hblank]
  have hskip := Cursor.skipWhile_append isBreak_of_mem_blanks hspace hstop p.cursor.mark
  rw [← h] at hskip
  rw [toNextToken]
  simp only [if_neg hmark, hskip]
  -- behind the blanks comes neither a comment nor a line break
  cases rest with
  | nil => rfl
  | cons c rest =>
    obtain ⟨-, hbreak, hcomment, -⟩ := hrest c rfl
    simp [hcomment, hbreak]

/-- A line break is passed with the blanks behind it, and a key may start there. -/
theorem toNextToken_line {n : Nat} (h : p.cursor.rest = '\n' :: (blanks n ++ rest))
    (hrest : StartsToken rest) (hflow : p.inFlow = false) (bound : Nat) :
    p.toNextToken (bound + 2) =
      { p with cursor := ⟨rest, p.cursor.mark.past ('\n' :: blanks n)⟩, keyAllowed := true } := by
  obtain ⟨⟨text, m⟩, tokens, count, indent, outer, candidates, keyAllowed⟩ := p
  subst h
  have hskip (q : Char → Bool) (hq : q '\n' = false) :
      (⟨'\n' :: (blanks n ++ rest), m⟩ : Cursor).skipWhile q = ⟨'\n' :: (blanks n ++ rest), m⟩ := by
    simp [Cursor.skipWhile, Cursor.skip, hq]
  have hbreak : isBreak '\n' = true := rfl
  have hnext := Cursor.skipBreak_cons (.inl rfl : IsTextBreak '\n') (blanks n ++ rest) m
  have hmark : ¬ (m.column = 0 ∧ ('\n' :: (blanks n ++ rest)).head? = some '\ufeff') := by simp
  have hspace := hskip (fun x => x == ' ' || !keyAllowed && x == '\t') (by simp)
  -- behind the line break only blanks are left
  let next : Progress := ⟨⟨blanks n ++ rest, m.past ['\n']⟩, tokens, count, indent, outer, candidates,
    true⟩
  have hstep := toNextToken_blanks (show next.cursor.rest = blanks n ++ rest from rfl) hrest bound
  rw [toNextToken]
  simp only [if_neg hmark, hflow, Bool.false_or, hspace, Bool.not_false, Bool.or_true]
  exact hstep

/-! ## Candidates for keys -/

theorem dropStale_none (h : p.candidates = [none]) : p.dropStale = .ok p := by
  obtain ⟨cursor, tokens, count, indent, outer, candidates, keyAllowed⟩ := p
  subst h
  rfl

/-- Where a scalar was met that need not be a key, which is given up on the next line. -/
structure Rests (p : Progress) (ss : List Symbol) (stack : List Nat) : Prop where
  symbols : p.tokens.reverse.map Token.symbol = ss
  count : p.count = p.tokens.length
  blocks : p.indent :: p.outer = stack.map Int.ofNat ++ [-1]
  candidates : ∃ c, p.candidates = [c] ∧
    ∀ k ∈ c, k.required = false ∧ k.mark.line ≤ p.cursor.mark.line

/-- On its line, a candidate that need not be a key is kept or given up. -/
theorem Rests.dropStale (h : p.Rests ss stack) :
    ∃ q, p.dropStale = .ok q ∧ q.Rests ss stack ∧ q.cursor = p.cursor := by
  obtain ⟨cursor, tokens, count, indent, outer, candidates, keyAllowed⟩ := p
  obtain ⟨hsymbols, hcount, hblocks, c, hcandidates, hc⟩ := h
  subst hcandidates
  cases c with
  | none => exact ⟨_, rfl, ⟨hsymbols, hcount, hblocks, none, rfl, hc⟩, rfl⟩
  | some k =>
    obtain ⟨hrequired, hline⟩ := hc k rfl
    -- a stale candidate is given up, which is no error where no key is required
    by_cases hstale : isStale cursor.mark k = true
    · refine ⟨⟨cursor, tokens, count, indent, outer, [none], keyAllowed⟩, ?_,
        ⟨hsymbols, hcount, hblocks, none, rfl, nofun⟩, rfl⟩
      simp [Progress.dropStale, dropStaleOne, hstale, hrequired, bind, Except.bind, pure, Except.pure]
    · refine ⟨⟨cursor, tokens, count, indent, outer, [some k], keyAllowed⟩, ?_,
        ⟨hsymbols, hcount, hblocks, some k, rfl, hc⟩, rfl⟩
      simp [Progress.dropStale, dropStaleOne, hstale, bind, Except.bind, pure, Except.pure]

/-- A candidate that need not be a key is given up on a later line. -/
theorem Rests.settle (h : p.Rests ss stack)
    (hlater : ∀ k, p.candidates = [some k] → k.mark.line < p.cursor.mark.line) :
    ∃ q, p.dropStale = .ok q ∧ q.Stands ss stack p.keyAllowed p.cursor.rest ∧
      q.cursor = p.cursor := by
  obtain ⟨cursor, tokens, count, indent, outer, candidates, keyAllowed⟩ := p
  obtain ⟨hsymbols, hcount, hblocks, c, hcandidates, hc⟩ := h
  subst hcandidates
  refine ⟨⟨cursor, tokens, count, indent, outer, [none], keyAllowed⟩, ?_,
    ⟨hsymbols, hcount, hblocks, rfl, rfl, rfl⟩, rfl⟩
  cases c with
  | none => rfl
  | some k =>
    obtain ⟨hrequired, -⟩ := hc k rfl
    have hstale : isStale cursor.mark k = true := by simp [isStale, hlater k rfl]
    simp [Progress.dropStale, dropStaleOne, hstale, hrequired, bind, Except.bind, pure, Except.pure]

/-! ## Indentation -/

/-- The ends of the block collections that are deeper than a column. -/
def ends (column : Int) (stack : List Nat) : List Symbol :=
  (stack.takeWhile fun i : Nat => decide (column < i)).map fun _ => .blockEnd

/-- The block collections that are not deeper than a column. -/
def around (column : Int) (stack : List Nat) : List Nat :=
  stack.dropWhile fun i : Nat => decide (column < i)

section

variable {column : Int} {i : Nat}

theorem ends_cons_of_lt (h : column < i) (stack : List Nat) :
    ends column (i :: stack) = .blockEnd :: ends column stack := by
  simp [ends, h]

theorem around_cons_of_lt (h : column < i) (stack : List Nat) :
    around column (i :: stack) = around column stack := by
  simp [around, h]

/-- A token that is as deep as the innermost collection closes none. -/
theorem ends_of_top_le (h : top stack ≤ column) : ends column stack = [] := by
  cases stack with
  | nil => rfl
  | cons i stack =>
    have hi : ¬ column < i := Int.not_lt.mpr h
    simp [ends, hi]

theorem around_of_top_le (h : top stack ≤ column) : around column stack = stack := by
  cases stack with
  | nil => rfl
  | cons i stack =>
    have hi : ¬ column < i := Int.not_lt.mpr h
    simp [around, hi]

end

/-- One end closes the innermost block collection. -/
theorem Stands.push_end {i : Nat} (h : p.Stands ss (i :: stack) allowed rest) (mark : Mark) :
    ∃ o outer, p.outer = o :: outer ∧
      ({ p.push .blockEnd mark mark with indent := o, outer := outer } : Progress).Stands
        (ss ++ [.blockEnd]) stack allowed rest := by
  obtain ⟨hindent, houter⟩ := List.cons.inj h.blocks
  have hne : stack.map Int.ofNat ++ [-1] ≠ [] := by simp
  obtain ⟨o, outer, hstack⟩ := List.exists_cons_of_ne_nil hne
  refine ⟨o, outer, houter.trans hstack, ?_, ?_, hstack.symm, h.candidates, h.allowed, h.rest⟩
  · simp [push, ← h.symbols]
  · simp [push, h.count]

/-- The block collections that are deeper than a column are closed. -/
theorem Stands.closeBlocks (h : p.Stands ss stack allowed rest) (column : Int) :
    (closeBlocks column p.outer p).Stands (ss ++ ends column stack) (around column stack) allowed
        rest ∧
      (Progress.closeBlocks column p.outer p).cursor = p.cursor := by
  induction stack generalizing p ss with
  | nil =>
    have houter : p.outer = [] := (List.cons.inj h.blocks).2
    rw [houter]
    simpa [Progress.closeBlocks, ends, around] using h
  | cons i stack ih =>
    have hindent : p.indent = i := h.indent
    -- the indentation around the innermost collection is the next one on the stack
    obtain ⟨o, outer, houter, hpushed⟩ := h.push_end p.cursor.mark
    rw [houter, Progress.closeBlocks, hindent]
    by_cases hi : column < i
    · -- the innermost one is closed, and so are those around it that are deeper
      obtain ⟨hstands, hcursor⟩ := ih hpushed
      rw [if_pos hi, ends_cons_of_lt hi, around_cons_of_lt hi, ← List.singleton_append,
        ← List.append_assoc]
      exact ⟨hstands, hcursor⟩
    · -- none is closed, for the others are less deep
      have htop : top (i :: stack) ≤ column := Int.not_lt.mp hi
      rw [if_neg hi, ends_of_top_le htop, around_of_top_le htop, List.append_nil]
      exact ⟨h, rfl⟩

/-- At a column, the collections that are deeper are closed; nothing more is read for it. -/
theorem Stands.close (h : p.Stands ss stack allowed rest) (column : Int) :
    (p.close column).Stands (ss ++ ends column stack) (around column stack) allowed rest ∧
      (p.close column).cursor = p.cursor := by
  have hclose : p.close column = Progress.closeBlocks column p.outer p := by
    simp [Progress.close, h.inFlow]
  rw [hclose]
  exact h.closeBlocks column

/-! ## The way to the next token -/

/-- Passes white space up to the next token, which may close block collections. -/
def arrive (p : Progress) : Except Fault Progress := do
  let p ← (p.toNextToken (p.cursor.rest.length + 1)).dropStale
  return p.close p.cursor.mark.column

/-- A step takes a token where the reading has arrived. -/
theorem next_eq (p : Progress) : p.next = p.arrive.bind takeToken := by
  unfold next arrive
  cases (p.toNextToken (p.cursor.rest.length + 1)).dropStale <;> rfl

/-- Where a reading stands at the start of a line, in front of the token that comes first. -/
def AtLine (p : Progress) (ss : List Symbol) (stack : List Nat) (text : List Char) : Prop :=
  ∃ k rest, text = blanks k ++ rest ∧ StartsToken rest ∧
    p.Stands (ss ++ ends k stack) (around k stack) true rest ∧ p.cursor.mark.column = k

/-- Where the indentation of the line is known, so is what it closes. -/
theorem atLine_iff {k : Nat} (hrest : StartsToken rest) :
    p.AtLine ss stack (blanks k ++ rest) ↔
      p.Stands (ss ++ ends k stack) (around k stack) true rest ∧ p.cursor.mark.column = k := by
  constructor
  · rintro ⟨k', rest', htext, hrest', hstands⟩
    obtain ⟨rfl, rfl⟩ := blanks_append_inj hrest hrest' htext
    exact hstands
  · exact fun h => ⟨k, rest, rfl, hrest, h⟩

/-- A line of an outer block collection closes the inner one. -/
theorem atLine_cons {k i : Nat} (hk : k < i) (hrest : StartsToken rest) :
    p.AtLine ss (i :: stack) (blanks k ++ rest) ↔
      p.AtLine (ss ++ [.blockEnd]) stack (blanks k ++ rest) := by
  have hlt : (k : Int) < i := Int.ofNat_lt.mpr hk
  rw [atLine_iff hrest, atLine_iff hrest, ends_cons_of_lt hlt, around_cons_of_lt hlt,
    List.append_assoc, List.singleton_append]

/-- A line that is deep enough closes nothing. -/
theorem atLine_of_top_le {k : Nat} (hk : top stack ≤ k) (hrest : StartsToken rest) :
    p.AtLine ss stack (blanks k ++ rest) ↔
      p.Stands ss stack true rest ∧ p.cursor.mark.column = k := by
  rw [atLine_iff hrest, ends_of_top_le hk, around_of_top_le hk, List.append_nil]

/-- Blanks lead to the next token on the line. -/
theorem Stands.arrive {n : Nat} (h : p.Stands ss stack allowed (blanks n ++ rest))
    (hrest : StartsToken rest) :
    ∃ q, p.arrive = .ok q ∧ q.cursor = ⟨rest, p.cursor.mark.past (blanks n)⟩ ∧
      q.Stands (ss ++ ends q.cursor.mark.column stack) (around q.cursor.mark.column stack) allowed
        rest := by
  -- blanks are passed, no candidate is given up, and what is deeper is closed
  have hnext := toNextToken_blanks h.rest hrest p.cursor.rest.length
  let next : Progress := { p with cursor := ⟨rest, p.cursor.mark.past (blanks n)⟩ }
  have hstands : next.Stands ss stack allowed rest :=
    ⟨h.symbols, h.count, h.blocks, h.candidates, h.allowed, rfl⟩
  have hkept : next.dropStale = .ok next := dropStale_none h.candidates
  obtain ⟨hclose, hcursor⟩ := hstands.close next.cursor.mark.column
  refine ⟨next.close next.cursor.mark.column, ?_, hcursor, ?_⟩
  · rw [Progress.arrive, hnext]
    show (do let p ← next.dropStale; return p.close p.cursor.mark.column) = _
    rw [hkept]
    rfl
  · rw [hcursor]
    exact hclose

/-- A line break leads to the first token of the next line. -/
theorem Rests.arrive {n : Nat} (h : p.Rests ss stack)
    (htext : p.cursor.rest = '\n' :: (blanks n ++ rest)) (hrest : StartsToken rest) :
    ∃ q, p.arrive = .ok q ∧ q.AtLine ss stack (blanks n ++ rest) ∧ q.cursor.rest = rest := by
  have hflow : p.inFlow = false := by
    obtain ⟨c, hcandidates, -⟩ := h.candidates
    simp [inFlow, hcandidates]
  have hlength : p.cursor.rest.length + 1 = (blanks n ++ rest).length + 2 := by simp [htext]
  have hbreak : ∀ c ∈ ['\n'], isBreak c = true := by simp [isBreak]
  have hline := Mark.line_lt_past p.cursor.mark (hbreak '\n' (by simp))
    (show '\n' ∈ '\n' :: blanks n by simp)
  have hcolumn : (p.cursor.mark.past ('\n' :: blanks n)).column = n := by
    have := Mark.column_past_breaks p.cursor.mark hbreak (isBreak_of_mem_blanks (n := n))
    rwa [length_blanks] at this
  have hnext := toNextToken_line htext hrest hflow (blanks n ++ rest).length
  let next : Progress :=
    { p with cursor := ⟨rest, p.cursor.mark.past ('\n' :: blanks n)⟩, keyAllowed := true }
  -- whatever was met on the line before is no key now
  have hrests : next.Rests ss stack := by
    obtain ⟨hsymbols, hcount, hblocks, c, hcandidates, hc⟩ := h
    exact ⟨hsymbols, hcount, hblocks, c, hcandidates, fun k hk =>
      ⟨(hc k hk).1, Nat.le_of_lt (Nat.lt_of_le_of_lt (hc k hk).2 hline)⟩⟩
  have hlater : ∀ k, next.candidates = [some k] → k.mark.line < next.cursor.mark.line := by
    intro k hk
    obtain ⟨c, hcandidates, hc⟩ := h.candidates
    obtain rfl : c = some k := by
      have : p.candidates = [some k] := hk
      simpa [hcandidates] using this
    exact Nat.lt_of_le_of_lt (hc k rfl).2 hline
  obtain ⟨q, hq, hstands, hcursor⟩ := hrests.settle hlater
  obtain ⟨hclose, hcursor'⟩ := hstands.close n
  have hmark : q.cursor.mark.column = n := by rw [hcursor]; exact hcolumn
  refine ⟨q.close n, ?_, (atLine_iff hrest).mpr ⟨hclose, by rw [hcursor', hmark]⟩, hclose.rest⟩
  rw [Progress.arrive, hlength, hnext]
  show (do let p ← next.dropStale; return p.close p.cursor.mark.column) = _
  rw [hq]
  show Except.ok (q.close q.cursor.mark.column) = _
  rw [hmark]

/-! ## Hops -/

/-- A step from one token to the next, at which the text gets shorter. -/
def Hop (p q : Progress) : Prop :=
  ∃ r r', p.takeToken = .ok r ∧ r.dropStale = .ok r' ∧ r'.arrive = .ok q ∧
    (r'.tokens.head?.map Token.symbol) ≠ some .textEnd ∧
    q.cursor.rest.length < p.cursor.rest.length

/-- The token that was taken last is the first one of those that are kept. -/
theorem head?_of_symbols {tokens : List Token} {x : Symbol}
    (h : tokens.reverse.map Token.symbol = ss ++ [x]) :
    tokens.head?.map Token.symbol = some x := by
  cases tokens with
  | nil => simp at h
  | cons t tokens =>
    rw [List.reverse_cons, List.map_append, List.map_singleton] at h
    exact congrArg some (List.append_inj_right' h rfl |> List.singleton_inj.mp)

section

variable {r : Progress} {x : Symbol}

/-- A text whose last symbol is another one has not been read to its end. -/
theorem head?_ne_textEnd {tokens : List Token} (h : tokens.reverse.map Token.symbol = ss ++ [x])
    (hx : x ≠ .textEnd) : tokens.head?.map Token.symbol ≠ some .textEnd := by
  rw [head?_of_symbols h]
  exact fun heq => hx (Option.some.inj heq)

/-- A token with blanks behind it. -/
theorem hop_of_blanks {n : Nat} (htake : p.takeToken = .ok r)
    (h : r.Stands (ss ++ [x]) stack allowed (blanks n ++ rest)) (hx : x ≠ .textEnd)
    (hrest : StartsToken rest) (htop : top stack ≤ (r.cursor.mark.column : Int))
    (hlength : (blanks n ++ rest).length < p.cursor.rest.length) :
    ∃ q, Hop p q ∧ q.Stands (ss ++ [x]) stack allowed rest ∧
      q.cursor.mark.column = r.cursor.mark.column + n := by
  obtain ⟨q, harrive, hcursor, hstands⟩ := h.arrive hrest
  have hcolumn : q.cursor.mark.column = r.cursor.mark.column + n := by
    rw [hcursor, Mark.past_of_sameLine _ isBreak_of_mem_blanks, length_blanks]
  -- the token is no less deep than the innermost collection, and closes none
  have hdeep : top stack ≤ (q.cursor.mark.column : Int) := by
    rw [hcolumn]
    omega
  rw [ends_of_top_le hdeep, around_of_top_le hdeep, List.append_nil] at hstands
  refine ⟨q, ⟨r, r, htake, dropStale_none h.candidates, harrive, head?_ne_textEnd h.symbols hx, ?_⟩,
    hstands, hcolumn⟩
  rw [List.length_append] at hlength
  rw [hcursor]
  show rest.length < p.cursor.rest.length
  omega

/-- A token at the end of a line. -/
theorem hop_of_line {n : Nat} (htake : p.takeToken = .ok r) (h : r.Rests (ss ++ [x]) stack)
    (hx : x ≠ .textEnd) (htext : r.cursor.rest = '\n' :: (blanks n ++ rest))
    (hrest : StartsToken rest) (hlength : rest.length < p.cursor.rest.length) :
    ∃ q, Hop p q ∧ q.AtLine (ss ++ [x]) stack (blanks n ++ rest) := by
  obtain ⟨r', hdrop, hrests, hcursor⟩ := h.dropStale
  obtain ⟨q, harrive, hline, hlast⟩ := hrests.arrive (hcursor ▸ htext) hrest
  refine ⟨q, ⟨r, r', htake, hdrop, harrive, head?_ne_textEnd hrests.symbols hx, ?_⟩, hline⟩
  rw [hlast]
  exact hlength

/-- A token that ends on the next line. -/
theorem hop_of_passed {n : Nat} (htake : p.takeToken = .ok r) (h : r.Rests (ss ++ [x]) stack)
    (hx : x ≠ .textEnd) (hallowed : r.keyAllowed = true) (htext : r.cursor.rest = rest)
    (hrest : StartsToken rest) (hcolumn : r.cursor.mark.column = n)
    (hlater : ∀ k, r.candidates = [some k] → k.mark.line < r.cursor.mark.line)
    (hlength : rest.length < p.cursor.rest.length) :
    ∃ q, Hop p q ∧ q.AtLine (ss ++ [x]) stack (blanks n ++ rest) := by
  obtain ⟨r', hdrop, hstands, hcursor⟩ := h.settle hlater
  rw [htext, hallowed] at hstands
  -- no blanks are left, so the column tells what the line closes
  obtain ⟨q, harrive, hcursor', hq⟩ := hstands.arrive (n := 0) hrest
  have hmark : q.cursor.mark.column = n := by
    rw [hcursor', hcursor]
    exact hcolumn
  rw [hmark] at hq
  refine ⟨q, ⟨r, r', htake, hdrop, harrive, head?_ne_textEnd hstands.symbols hx, ?_⟩,
    (atLine_iff hrest).mpr ⟨hq, hmark⟩⟩
  rw [hcursor']
  exact hlength

end

/-- A whole text is read hop by hop. -/
theorem read_of_hops {p q : Progress} (h : Relation.ReflTransGen Hop p q) {r r' : Progress}
    (hend : q.takeToken = .ok r) (hdrop : r.dropStale = .ok r')
    (hhead : r'.tokens.head?.map Token.symbol = some .textEnd) {p₀ : Progress}
    (harrive : p₀.arrive = .ok p) (settled : Nat) {bound : Nat}
    (hb : p.cursor.rest.length < bound) :
    TokenList.read bound settled p₀ = ⟨r'.tokens.reverse, none⟩ := by
  -- each hop is one round of the reading, and leaves a shorter text under the bound
  induction h using Relation.ReflTransGen.head_induction_on generalizing p₀ settled bound with
  | refl =>
    obtain ⟨bound, rfl⟩ := Nat.exists_eq_succ_of_ne_zero (Nat.ne_of_gt (Nat.zero_lt_of_lt hb))
    have hnext : p₀.next = .ok r := by rw [next_eq, harrive]; exact hend
    simp only [TokenList.read, hnext, hdrop, hhead, if_true]
  | head hop _ ih =>
    obtain ⟨s, s', htake, hstale, harrive', hnot, hshorter⟩ := hop
    obtain ⟨bound, rfl⟩ := Nat.exists_eq_succ_of_ne_zero (Nat.ne_of_gt (Nat.zero_lt_of_lt hb))
    have hnext : p₀.next = .ok s := by rw [next_eq, harrive]; exact htake
    simp only [TokenList.read, hnext, hstale, if_neg hnot]
    exact ih harrive' s'.settled (by omega)

end Progress

end AmountPad.Yaml
