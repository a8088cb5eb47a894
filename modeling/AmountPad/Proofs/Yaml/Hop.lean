import Mathlib
import AmountPad.Proofs.Yaml.Progress
import AmountPad.Proofs.Yaml.Scalar.Block
import AmountPad.Proofs.Yaml.Scalar.Plain
import AmountPad.Proofs.Yaml.Scalar.Quoted

/-!
# Items and texts

The dash of an item is one hop, and so is a text in the style that is chosen for it.

* `Styled` — what is known of a text in the style that is chosen for it;
* `Progress.quoteMark`, `Progress.quoteStyle` — the two kinds of quotes.

Main results:

* `Progress.Stands.takeFirstEntry`, `Progress.Stands.takeNextEntry` — a dash opens a sequence where
  none is as deep;
* `Progress.Stands.hop_scalar` — a text is read back from whatever style it is written in.
-/

namespace AmountPad.Yaml

open Writer (blanks)

/-! ## Styles -/

/-- The style that is chosen for a text holds it. -/
inductive Styled (s : String) : Prop
  | literal : Writer.styleOf s = .literal → Writer.fitsLiteral s.toList = true → s.toList ≠ [] →
    Styled s
  | plain : Writer.styleOf s = .plain → Writer.fitsPlain s.toList = true → s.toList ≠ [] → Styled s
  | single : Writer.styleOf s = .singleQuoted → Writer.fitsSingle s.toList = true →
    s.toList.contains '\n' = false → Styled s
  | double : Writer.styleOf s = .doubleQuoted → Styled s

/-- Every text is written in one of the four styles, and only in one that it fits. -/
theorem styled (s : String) : Styled s := by
  by_cases hn : s.toList.contains '\n' = true
  · -- a text over several lines is a literal if it fits one
    have hne : s.toList ≠ [] := by
      intro hnil
      rw [hnil] at hn
      exact absurd hn (by decide)
    by_cases hfits : Writer.fitsLiteral s.toList = true
    · exact .literal (by unfold Writer.styleOf; simp only [if_pos hn, if_pos hfits]) hfits hne
    · exact .double (by unfold Writer.styleOf; simp only [if_pos hn, if_neg hfits])
  · by_cases hplain : (Writer.isPlainText s && Writer.fitsPlain s.toList) = true
    · obtain ⟨htext, hfits⟩ := Bool.and_eq_true_iff.mp hplain
      have hne : s.toList ≠ [] := by
        intro hnil
        obtain rfl : s = "" := String.toList_eq_nil_iff.mp hnil
        exact absurd htext (by decide)
      exact .plain (by unfold Writer.styleOf; simp only [if_neg hn, if_pos hplain]) hfits hne
    · by_cases hfits : Writer.fitsSingle s.toList = true
      · exact .single
          (by unfold Writer.styleOf; simp only [if_neg hn, if_neg hplain, if_pos hfits]) hfits
          (by simpa using hn)
      · exact .double (by unfold Writer.styleOf; simp only [if_neg hn, if_neg hplain, if_neg hfits])

namespace Progress

variable {p : Progress} {ss ss₀ : List Symbol} {stack stack₀ : List Nat} {allowed : Bool} {rest : List Char}

/-! ## Tokens that are taken -/

/-- A token of one character. -/
theorem Stands.take {c : Char} (h : p.Stands ss stack allowed (c :: rest)) (hc : isBreak c = false)
    (symbol : Symbol) :
    (p.take symbol 1).Stands (ss ++ [symbol]) stack allowed rest ∧
      (p.take symbol 1).cursor = ⟨rest, p.cursor.mark.past [c]⟩ := by
  have hcursor : p.cursor = ⟨c :: rest, p.cursor.mark⟩ := by rw [← h.rest]
  have hskip : p.cursor.skip 1 = ⟨rest, p.cursor.mark.past [c]⟩ := by
    rw [hcursor]
    exact Cursor.skip_one hc rest p.cursor.mark
  have htake : (p.take symbol 1).cursor = ⟨rest, p.cursor.mark.past [c]⟩ := hskip
  refine ⟨⟨?_, ?_, h.blocks, h.candidates, h.allowed, by rw [htake]⟩, htake⟩
  · simp [Progress.take, push, ← h.symbols]
  · simp [Progress.take, push, h.count]

/-- A block collection that is opened where none is as deep. -/
theorem Stands.openBlock {column : Nat} (h : p.Stands ss stack allowed rest)
    (hcolumn : top stack < column) (symbol : Symbol) (mark : Mark) :
    (p.openBlock column p.count symbol mark).Stands (ss ++ [symbol]) (column :: stack) allowed rest ∧
      (p.openBlock column p.count symbol mark).cursor = p.cursor := by
  have hopen : (!p.inFlow && decide (p.indent < (column : Int))) = true := by
    simp [h.inFlow, h.indent, hcolumn]
  unfold Progress.openBlock
  rw [if_pos (by simpa using hopen)]
  refine ⟨⟨?_, ?_, ?_, h.candidates, h.allowed, h.rest⟩, rfl⟩
  · simp [insert, ← h.symbols]
  · simp [insert, h.count]
  · simp [h.blocks]

/-- A token that is not deeper than the innermost collection opens none. -/
theorem Stands.openBlock_of_le {column number : Nat} (h : p.Stands ss stack allowed rest)
    (hcolumn : (column : Int) ≤ top stack) (symbol : Symbol) (mark : Mark) :
    p.openBlock column number symbol mark = p := by
  have hopen : ¬ p.indent < (column : Int) := by
    rw [h.indent]
    omega
  simp [Progress.openBlock, hopen]

/-! ## Items -/

/-- A dash with white space behind it is no marker. -/
theorem atMarker_dash {m : Mark} (hrest : atSpace rest = true) :
    (⟨'-' :: rest, m⟩ : Cursor).atMarker '-' = false := by
  cases rest with
  | nil => simp [Cursor.atMarker]
  | cons c rest =>
    have hc : c ≠ '-' := by
      rintro rfl
      exact absurd hrest Bool.false_ne_true
    cases rest with
    | nil => simp [Cursor.atMarker]
    | cons d rest => simp [Cursor.atMarker, hc]

/-- A marker is told by its first character. -/
theorem atMarker_of_rest {c : Char} (h : p.cursor.rest = c :: rest) {x : Char} (hx : c ≠ x) :
    p.cursor.atMarker x = false := by
  have hcursor : p.cursor = ⟨c :: rest, p.cursor.mark⟩ := by rw [← h]
  rw [hcursor]
  exact Plain.atMarker_of_ne hx rest _

/-- A dash in front of white space is the mark of an entry. -/
theorem takeToken_entry (h : p.cursor.rest = '-' :: rest) (hrest : atSpace rest = true) :
    p.takeToken = p.takeBlockEntry := by
  have hcursor : p.cursor = ⟨'-' :: rest, p.cursor.mark⟩ := by rw [← h]
  have hdash := atMarker_dash (m := p.cursor.mark) hrest
  rw [← hcursor] at hdash
  have hdot : p.cursor.atMarker '.' = false := atMarker_of_rest h (by decide)
  simp [takeToken, h, hdash, hdot, hrest]

/-- The dash of an item, once the sequence is open. -/
theorem Stands.takeEntry {opened : Progress} (h : opened.Stands ss stack true ('-' :: rest))
    (hp : p.Stands ss₀ stack₀ true ('-' :: rest)) (hrest : atSpace rest = true)
    (hopened : p.openBlock p.cursor.mark.column p.count .blockSequenceStart p.cursor.mark = opened)
    (hcursor : opened.cursor = p.cursor) :
    ∃ r, p.takeToken = .ok r ∧ r.Stands (ss ++ [.blockEntry]) stack true rest ∧
      r.cursor.mark.column = p.cursor.mark.column + 1 := by
  obtain ⟨htake, hbehind⟩ := h.take (show isBreak '-' = false from rfl) .blockEntry
  refine ⟨{ opened.take .blockEntry 1 with keyAllowed := true }, ?_, ⟨htake.symbols, htake.count,
    htake.blocks, htake.candidates, rfl, htake.rest⟩, ?_⟩
  · -- a dash starts no key, and there is no candidate to give up
    have hdrop : opened.dropCandidate = .ok opened := by simp [dropCandidate, h.candidates]
    rw [takeToken_entry hp.rest hrest, takeBlockEntry]
    simp only [hp.inFlow, hp.allowed, hopened, hdrop]
    rfl
  · show (opened.take .blockEntry 1).cursor.mark.column = _
    rw [hbehind, hcursor]
    rfl

/-- An item of the innermost sequence. -/
theorem Stands.takeNextEntry (h : p.Stands ss stack true ('-' :: rest)) (hrest : atSpace rest = true)
    (hcolumn : p.cursor.mark.column ≤ top stack) :
    ∃ r, p.takeToken = .ok r ∧ r.Stands (ss ++ [.blockEntry]) stack true rest ∧
      r.cursor.mark.column = p.cursor.mark.column + 1 :=
  h.takeEntry h hrest (h.openBlock_of_le hcolumn _ _) rfl

/-- The first item of a sequence. -/
theorem Stands.takeFirstEntry (h : p.Stands ss stack true ('-' :: rest))
    (hrest : atSpace rest = true) (hcolumn : top stack < p.cursor.mark.column) :
    ∃ r, p.takeToken = .ok r ∧
      r.Stands (ss ++ [.blockSequenceStart] ++ [.blockEntry]) (p.cursor.mark.column :: stack) true
        rest ∧
      r.cursor.mark.column = p.cursor.mark.column + 1 := by
  obtain ⟨hopened, hcursor⟩ := h.openBlock hcolumn .blockSequenceStart p.cursor.mark
  exact hopened.takeEntry h hrest rfl hcursor

/-! ## Scalars -/

/-- A scalar inside a block collection may leave a candidate, but none that has to be a key. -/
theorem Stands.addCandidate (h : p.Stands ss stack allowed rest)
    (hcolumn : top stack < p.cursor.mark.column) :
    ∃ c, p.addCandidate = .ok { p with candidates := [c] } ∧
      ∀ k ∈ c, k.required = false ∧ k.mark = p.cursor.mark := by
  have hindent := h.indent
  obtain ⟨cursor, tokens, count, indent, outer, candidates, keyAllowed⟩ := p
  obtain ⟨-, -, -, hcandidates, rfl, -⟩ := h
  subst hcandidates
  have hindent : indent = top stack := hindent
  -- a scalar deeper than its collection need not be a key
  have hother : (indent == (cursor.mark.column : Int)) = false := by
    rw [beq_eq_false_iff_ne, hindent]
    exact Int.ne_of_lt hcolumn
  cases keyAllowed with
  | false => exact ⟨none, rfl, nofun⟩
  | true =>
    refine ⟨some ⟨false, count, cursor.mark⟩, ?_, ?_⟩
    · simp [Progress.addCandidate, dropCandidate, hother, bind, Except.bind, pure, Except.pure]
    · rintro k ⟨⟩
      exact ⟨rfl, rfl⟩

/-- A single candidate is one outside brackets. -/
theorem inFlow_single (p : Progress) (c : Option Candidate) :
    ({ p with candidates := [c] } : Progress).inFlow = false := rfl

/-- A reading behind a scalar. -/
theorem Stands.pushScalar (h : p.Stands ss stack allowed rest) {c : Option Candidate}
    (hc : ∀ k ∈ c, k.required = false ∧ k.mark = p.cursor.mark) (symbol : Symbol) (stop : Mark)
    (next : Cursor) (hnext : p.cursor.mark.line ≤ next.mark.line) (allowed' : Bool) :
    Rests { ({ p with candidates := [c] } : Progress).push symbol p.cursor.mark stop with
      cursor := next, keyAllowed := allowed' } (ss ++ [symbol]) stack := by
  refine ⟨?_, ?_, h.blocks, c, rfl, fun k hk => ⟨(hc k hk).1, ?_⟩⟩
  · simp [push, ← h.symbols]
  · simp [push, h.count]
  · rw [(hc k hk).2]
    exact hnext

/-- A character that is no mark, or a mark that is directly followed by ink, starts a plain
scalar. -/
theorem startsPlain_of {c : Char} {rest : List Char} (hink : IsInk c)
    (hreserved : Writer.reserved.contains c = false)
    (hmark : c = '-' ∨ c = '?' ∨ c = ':' → atSpace rest = false) :
    startsPlain false c rest = true := by
  obtain ⟨hblank, hbreak⟩ := hink
  by_cases hc : c = '-' ∨ c = '?' ∨ c = ':'
  · -- the three marks start a scalar where no white space follows
    have hspace := hmark hc
    cases rest with
    | nil => exact absurd hspace (by decide)
    | cons d rest =>
      have hd : isBlank d = false := (Bool.or_eq_false_iff.mp hspace).1
      rcases hc with rfl | rfl | rfl <;> simp [startsPlain, hd, hspace]
  · simp only [Writer.reserved, List.contains_cons, List.contains_nil, Bool.or_eq_false_iff,
      beq_eq_false_iff_ne] at hreserved
    simp only [not_or] at hc
    simp [startsPlain, hblank, hbreak, hreserved, hc]

/-- A text that fits a plain scalar is taken as one. -/
theorem takeToken_plain {cs : List Char} (hfits : Writer.fitsPlain cs = true) (hne : cs ≠ [])
    {more : List Char} (hmore : atSpace more = true) (h : p.cursor.rest = cs ++ more)
    (hflow : p.inFlow = false) (hcolumn : 0 < p.cursor.mark.column) :
    p.takeToken = p.takePlain := by
  have hworded := worded_of_fitsPlain hfits hne
  simp only [Writer.fitsPlain, Bool.not_eq_true', Bool.or_eq_false_iff] at hfits
  obtain ⟨c, rest, rfl⟩ := List.exists_cons_of_ne_nil hne
  obtain ⟨⟨-, hother⟩, hinside⟩ := hfits
  simp only [Writer.startsOther, Bool.or_eq_false_iff] at hother
  obtain ⟨-, hreserved, hmarked⟩ := hother
  -- what follows a mark that stands for itself
  have hspace : atSpace (rest ++ more) = atSpace rest := by
    cases rest with
    | nil => exact hmore
    | cons d rest => rfl
  have hmarks : c = '-' ∨ c = '?' ∨ c = ':' → atSpace (rest ++ more) = false := by
    rw [hspace]
    rintro (rfl | rfl | rfl)
    · simpa using hmarked
    · simpa using hmarked
    · exact ((endsInside_cons _ _ _).mp hinside).1 rfl
  have hink : IsInk c := by
    obtain ⟨d, _, hd, hink, -⟩ := hworded.starts
    obtain ⟨rfl, -⟩ := List.cons.inj hd
    exact ⟨hink, (hworded.spaced c List.mem_cons_self).1⟩
  have hstarts := startsPlain_of hink hreserved hmarks
  have hmark (x : Char) : p.cursor.atMarker x = false := Cursor.atMarker_of_column_pos hcolumn x
  have hzero : p.cursor.mark.column ≠ 0 := Nat.ne_of_gt hcolumn
  have hdash : ¬ (c = '-' ∧ atSpace (rest ++ more) = true) := fun h => by
    simp [hmarks (.inl h.1)] at h
  have hquestion : ¬ (c = '?' ∧ atSpace (rest ++ more) = true) := fun h => by
    simp [hmarks (.inr (.inl h.1))] at h
  have hcolon : ¬ (c = ':' ∧ atSpace (rest ++ more) = true) := fun h => by
    simp [hmarks (.inr (.inr h.1))] at h
  simp only [Writer.reserved, List.contains_cons, List.contains_nil, Bool.or_eq_false_iff,
    beq_eq_false_iff_ne] at hreserved
  simp [takeToken, h, hmark, hzero, hflow, hreserved, hdash, hquestion, hcolon, hstarts]

section

variable {I k : Nat} {cs tail : List Char}

/-- A plain scalar inside a block collection. -/
theorem Stands.hop_plain (h : p.Stands ss (I :: stack) allowed (cs ++ '\n' :: (blanks k ++ tail)))
    (hfits : Writer.fitsPlain cs = true) (hne : cs ≠ []) (hcolumn : I < p.cursor.mark.column)
    (hk : k ≤ I) (htail : StartsToken tail) :
    ∃ q, Hop p q ∧
      q.AtLine (ss ++ [.scalar (String.ofList cs) .plain]) (I :: stack) (blanks k ++ tail) := by
  have hbreak : isBreak '\n' = true := rfl
  have hcursor : p.cursor = ⟨cs ++ '\n' :: (blanks k ++ tail), p.cursor.mark⟩ := by rw [← h.rest]
  have hindent : p.indent = I := h.indent
  -- the scalar is scanned up to the next line, where what was met before is no key any more
  have hscan := Plain.scan_fitsPlain hfits hne hk htail hcolumn
  rw [← hcursor, ← hindent] at hscan
  obtain ⟨c, hadd, hc⟩ := h.addCandidate (Int.ofNat_lt.mpr hcolumn)
  have hline := Mark.line_lt_past p.cursor.mark hbreak
    (show '\n' ∈ cs ++ '\n' :: blanks k by simp)
  have hrests := h.pushScalar hc (.scalar (String.ofList cs) .plain) (p.cursor.mark.past cs)
    ⟨tail, p.cursor.mark.past (cs ++ '\n' :: blanks k)⟩ (Nat.le_of_lt hline) true
  refine hop_of_passed ?_ hrests (by simp) rfl rfl htail ?_ ?_ ?_
  · rw [takeToken_plain hfits hne rfl h.rest h.inFlow (Nat.lt_of_le_of_lt (Nat.zero_le I) hcolumn),
      takePlain, hadd]
    simp only [bind, Except.bind, inFlow_single, hscan]
    rfl
  · show (p.cursor.mark.past (cs ++ '\n' :: blanks k)).column = k
    rw [Mark.column_past_line _ _ hbreak isBreak_of_mem_blanks, length_blanks]
  · intro k' hk'
    obtain rfl : c = some k' := by simpa [push] using hk'
    rw [(hc k' rfl).2]
    exact hline
  · rw [h.rest]
    simp only [List.length_append, List.length_cons]
    omega

/-- The style and the mark of a quoted scalar. -/
def quoteMark (single : Bool) : Char := if single then '\'' else '"'

def quoteStyle (single : Bool) : Style := if single then .singleQuoted else .doubleQuoted

theorem takeToken_quoted {single : Bool} (h : p.cursor.rest = quoteMark single :: rest) :
    p.takeToken = p.takeQuoted single := by
  have hmark (x : Char) (hx : quoteMark single ≠ x) : p.cursor.atMarker x = false :=
    atMarker_of_rest h hx
  cases single with
  | false => simp [takeToken, h, hmark '-' (by decide), hmark '.' (by decide), quoteMark]
  | true => simp [takeToken, h, hmark '-' (by decide), hmark '.' (by decide), quoteMark]

/-- A quoted scalar inside a block collection, at the end of a line. -/
theorem Stands.hop_quoted (single : Bool) {inner : List Char}
    (h : p.Stands ss (I :: stack) allowed
      (quoteMark single :: inner ++ '\n' :: (blanks k ++ tail)))
    (hscan : Quoted.scan single p.cursor =
      .ok (cs, ⟨'\n' :: (blanks k ++ tail), p.cursor.mark.past (quoteMark single :: inner)⟩))
    (hcolumn : I < p.cursor.mark.column) (htail : StartsToken tail) :
    ∃ q, Hop p q ∧ q.AtLine (ss ++ [.scalar (String.ofList cs) (quoteStyle single)]) (I :: stack)
      (blanks k ++ tail) := by
  obtain ⟨c, hadd, hc⟩ := h.addCandidate (Int.ofNat_lt.mpr hcolumn)
  -- the scalar may end on a later line than its candidate, but not on an earlier one
  have hline := Mark.line_le_past p.cursor.mark (quoteMark single :: inner)
  have hrests := h.pushScalar hc (.scalar (String.ofList cs) (quoteStyle single))
    (p.cursor.mark.past (quoteMark single :: inner))
    ⟨'\n' :: (blanks k ++ tail), p.cursor.mark.past (quoteMark single :: inner)⟩ hline false
  refine hop_of_line ?_ hrests (by simp) rfl htail ?_
  · rw [takeToken_quoted (h.rest.trans (List.cons_append ..)), takeQuoted, hadd]
    simp only [bind, Except.bind, hscan]
    rfl
  · rw [h.rest]
    simp only [List.length_append, List.length_cons]
    omega

theorem takeToken_literal (h : p.cursor.rest = '|' :: rest) (hflow : p.inFlow = false) :
    p.takeToken = p.takeBlockScalar true := by
  have hmark (x : Char) (hx : '|' ≠ x) : p.cursor.atMarker x = false := atMarker_of_rest h hx
  simp [takeToken, h, hflow, hmark '-' (by decide), hmark '.' (by decide)]

/-- A literal inside a block collection, up to the token behind it. -/
theorem Stands.hop_literal {inner : List Char} {stop mark : Mark}
    (h : p.Stands ss (I :: stack) allowed ('|' :: inner ++ tail))
    (hscan : Block.scan true I p.cursor = .ok ⟨cs, stop, ⟨tail, mark⟩⟩)
    (hline : p.cursor.mark.line ≤ mark.line) (hmark : mark.column = k) (htail : StartsToken tail) :
    ∃ q, Hop p q ∧ q.AtLine (ss ++ [.scalar (String.ofList cs) .literal]) (I :: stack)
      (blanks k ++ tail) := by
  have hindent : p.indent = I := h.indent
  -- a block scalar is never a key
  have hrests := h.pushScalar (c := none) nofun (.scalar (String.ofList cs) .literal) stop
    ⟨tail, mark⟩ hline true
  have hsame : ({ p with candidates := [none] } : Progress) = p := by rw [← h.candidates]
  rw [hsame] at hrests
  refine hop_of_passed ?_ hrests (by simp) rfl rfl htail hmark (by simp [push, h.candidates]) ?_
  · have hdrop : p.dropCandidate = .ok p := by simp [dropCandidate, h.candidates]
    rw [← hindent] at hscan
    rw [takeToken_literal (h.rest.trans (List.cons_append ..)) h.inFlow, takeBlockScalar, hdrop]
    simp only [bind, Except.bind, hscan]
    rfl
  · rw [h.rest]
    simp only [List.length_append, List.length_cons]
    omega

/-- A text in the style that is chosen for it. -/
theorem Stands.hop_scalar (s : String)
    (h : p.Stands ss (I :: stack) allowed (Writer.scalar I s ++ (blanks k ++ tail)))
    (hcolumn : I < p.cursor.mark.column) (hk : k ≤ I) (htail : StartsToken tail) :
    ∃ q, Hop p q ∧
      q.AtLine (ss ++ [.scalar s (Writer.styleOf s)]) (I :: stack) (blanks k ++ tail) := by
  have hs : String.ofList s.toList = s := String.ofList_toList
  have hcursor : p.cursor = ⟨Writer.scalar I s ++ (blanks k ++ tail), p.cursor.mark⟩ := by
    rw [← h.rest]
  -- both kinds of quotes end on the line on which they are closed
  have hquote (single : Bool) (inner : List Char)
      (hstyle : Writer.styleOf s = quoteStyle single)
      (htext : Writer.scalar I s = quoteMark single :: inner ++ ['\n'])
      (hscan : Quoted.scan single ⟨quoteMark single :: inner ++ '\n' :: (blanks k ++ tail),
          p.cursor.mark⟩ =
        .ok (s.toList, ⟨'\n' :: (blanks k ++ tail), p.cursor.mark.past (quoteMark single :: inner)⟩)) :
      ∃ q, Hop p q ∧
        q.AtLine (ss ++ [.scalar s (Writer.styleOf s)]) (I :: stack) (blanks k ++ tail) := by
    have hrest : Writer.scalar I s ++ (blanks k ++ tail) =
        quoteMark single :: inner ++ '\n' :: (blanks k ++ tail) := by
      rw [htext, List.append_assoc, List.singleton_append]
    rw [hrest] at h hcursor
    rw [← hcursor] at hscan
    have hhop := h.hop_quoted single hscan hcolumn htail
    rwa [hs, ← hstyle] at hhop
  cases styled s with
  | literal hstyle hfits hne =>
    have htext : Writer.scalar I s = Block.literal I s.toList := by
      simp [Writer.scalar, hstyle, Block.literal]
    obtain ⟨inner, hinner⟩ : ∃ inner, Block.literal I s.toList ++ blanks k = '|' :: inner :=
      ⟨_, rfl⟩
    obtain ⟨stop, hscan⟩ := Block.scan_literal hk htail hfits hne p.cursor.mark
    have hline := Mark.line_le_past p.cursor.mark (Block.literal I s.toList ++ blanks k)
    have hcolumn' := Block.column_literal I k s.toList p.cursor.mark
    rw [htext, ← List.append_assoc] at h hcursor
    rw [← hcursor] at hscan
    rw [hinner] at h
    have hhop := h.hop_literal hscan hline hcolumn' htail
    rwa [hs, ← hstyle] at hhop
  | plain hstyle hfits hne =>
    have htext : Writer.scalar I s ++ (blanks k ++ tail) =
        s.toList ++ '\n' :: (blanks k ++ tail) := by
      simp [Writer.scalar, hstyle]
    rw [htext] at h
    have hhop := h.hop_plain hfits hne hcolumn hk htail
    rwa [hs, ← hstyle] at hhop
  | single hstyle hfits hn =>
    have hindent : 0 < I + Writer.step := Nat.add_pos_right I (by decide)
    have hnext : ∀ c ∈ ('\n' :: (blanks k ++ tail)).head?, c ≠ '\'' := by simp
    have hscan := Quoted.scan_single hindent hfits hn hnext p.cursor.mark
    exact hquote true _ hstyle (by simp [Writer.scalar, hstyle, quoteMark]) hscan
  | double hstyle =>
    have hscan := Quoted.scan_double s.toList ('\n' :: (blanks k ++ tail)) p.cursor.mark
    exact hquote false _ hstyle (by simp [Writer.scalar, hstyle, quoteMark]) hscan

end

end Progress

end AmountPad.Yaml
