import Mathlib
import AmountPad.Proofs.Yaml.Hop

/-!
# Names and empty collections

A name is read as a scalar that may turn out to be a key, and the colon behind it makes it one. That
also opens a mapping where no collection is as deep as the name.

* `Progress.named` — a reading between a name and its colon;
* `Progress.opens`, `Progress.inside` — what a key opens, and the collections that are open behind it;
* `Progress.brackets` — how empty collections are written.

Main results:

* `Progress.Stands.reach_value`, `Progress.Stands.reach_line` — the way from a name to a value on its
  line, and to one below it;
* `Progress.Stands.reach_brackets` — the way over an empty collection.
-/

namespace AmountPad.Yaml

open Writer (blanks)

namespace Progress

variable {p : Progress} {ss : List Symbol} {stack : List Nat} {allowed : Bool} {rest : List Char}

/-! ## Names -/

theorem startsToken_colon (rest : List Char) : StartsToken (':' :: rest) := by
  intro c hc
  obtain rfl : ':' = c := by simpa using hc
  decide

/-- A candidate on its line that is not too far away is kept. -/
theorem dropStale_some {k : Candidate} (h : p.candidates = [some k])
    (hk : isStale p.cursor.mark k = false) : p.dropStale = .ok p := by
  obtain ⟨cursor, tokens, count, indent, outer, candidates, keyAllowed⟩ := p
  subst h
  have hk : isStale cursor.mark k = false := hk
  simp [dropStale, dropStaleOne, hk, bind, Except.bind, pure, Except.pure]

/-- In front of a token that is as deep as the innermost collection nothing has to be done. -/
theorem arrive_self (hdrop : p.dropStale = .ok p) (hrest : StartsToken p.cursor.rest)
    (hindent : p.inFlow = true ∨ p.indent ≤ p.cursor.mark.column) : p.arrive = .ok p := by
  -- there is nothing to pass and nothing to close
  have hnext : p.toNextToken (p.cursor.rest.length + 1) = p := by
    have := toNextToken_blanks (n := 0) (p := p) rfl hrest p.cursor.rest.length
    exact this
  have hclose : p.close p.cursor.mark.column = p := by
    unfold close
    obtain hflow | hdeep := hindent
    · rw [if_pos hflow]
    · have hblocks : closeBlocks p.cursor.mark.column p.outer p = p := by
        cases p.outer with
        | nil => rfl
        | cons o outer => rw [closeBlocks, if_neg (Int.not_lt.mpr hdeep)]
      rw [hblocks]
      split <;> rfl
  rw [arrive, hnext, hdrop]
  show Except.ok (p.close p.cursor.mark.column) = _
  rw [hclose]

/-- In front of a name, the reader takes a plain scalar. -/
theorem takeToken_name {name : List Char} (hname : IsName name)
    (h : p.cursor.rest = name ++ ':' :: rest) (hflow : p.inFlow = false) :
    p.takeToken = p.takePlain := by
  obtain ⟨c, cs, rfl, hword, hdash, -⟩ := hname
  have hc := hword c List.mem_cons_self
  have hother : ∀ d, isWordChar d = false → c ≠ d := fun d hd => Plain.ne_of_isWordChar hc hd
  have hmark (x : Char) (hx : c ≠ x) : p.cursor.atMarker x = false := atMarker_of_rest h hx
  -- no mark of the syntax is a character of a name
  have hnone : ('?' :: ':' :: Writer.reserved).all (fun d => !isWordChar d) = true := rfl
  have hreserved : ∀ d ∈ '?' :: ':' :: Writer.reserved, c ≠ d := by
    intro d hd
    exact hother d (by simpa using List.all_eq_true.mp hnone d hd)
  have hstarts : startsPlain false c (cs ++ ':' :: rest) = true := by
    refine startsPlain_of (Plain.isInk_of_isWordChar hc) ?_ ?_
    · rw [← Bool.not_eq_true, List.contains_iff_mem]
      exact fun hmem => hreserved c (by simp [hmem]) rfl
    · rintro (hc' | hc' | hc')
      · exact absurd hc' hdash
      · exact absurd hc' (hreserved '?' (by decide))
      · exact absurd hc' (hreserved ':' (by decide))
  simp only [Writer.reserved, List.forall_mem_cons] at hreserved
  simp [takeToken, h, hflow, hmark '-' hdash, hmark '.' (hother '.' rfl), hother '%' rfl, hdash,
    hreserved, hstarts]

/-- A reading behind a name, the token of which may turn out to start a key. -/
def named (p : Progress) (name rest : List Char) (required : Bool) : Progress :=
  { p with
    cursor := ⟨':' :: rest, p.cursor.mark.past name⟩
    tokens := ⟨.scalar (String.ofList name) .plain, p.cursor.mark, p.cursor.mark.past name⟩ :: p.tokens
    count := p.count + 1
    candidates := [some ⟨required, p.count, p.cursor.mark⟩]
    keyAllowed := false }

section

variable {name : List Char}

/-- A name stands on one line, and the mark behind it is as far as it is long. -/
theorem past_name (hname : IsName name) (m : Mark) :
    m.past name = ⟨m.index + name.length, m.line, m.column + name.length⟩ := by
  obtain ⟨c, cs, rfl, hword, -⟩ := hname
  exact m.past_of_sameLine fun d hd => (Plain.isInk_of_isWordChar (hword d hd)).2

/-- A name leads to the colon behind it. -/
theorem Stands.hop_name (h : p.Stands ss stack true (name ++ ':' :: rest)) (hname : IsName name)
    (hrest : atSpace rest = true) (hcolumn : top stack ≤ p.cursor.mark.column) :
    ∃ required, Hop p (p.named name rest required) := by
  have hindent := h.indent
  have htake := takeToken_name hname h.rest h.inFlow
  have hscan := Plain.scan_name hname hrest p.indent p.cursor.mark
  rw [← h.rest] at hscan
  let required := p.indent == (p.cursor.mark.column : Int)
  let q := p.named name rest required
  have hmark : q.cursor.mark = _ := past_name hname p.cursor.mark
  obtain ⟨hpos, hlength⟩ : 0 < name.length ∧ name.length ≤ 1024 := by
    obtain ⟨c, cs, rfl, -, -, hlength⟩ := hname
    exact ⟨Nat.succ_pos _, hlength⟩
  -- the colon is on the line of the name, and near enough to it
  have hstale : isStale q.cursor.mark ⟨required, p.count, p.cursor.mark⟩ = false := by
    simp only [isStale, hmark, Bool.or_eq_false_iff, decide_eq_false_iff_not]
    omega
  have hdrop : q.dropStale = .ok q := dropStale_some rfl hstale
  have hdeep : q.indent ≤ q.cursor.mark.column := by
    have hsame : q.indent = p.indent := rfl
    rw [hsame, hindent, hmark]
    exact Int.le_trans hcolumn (Int.ofNat_le.mpr (Nat.le_add_right _ _))
  have hadd : p.addCandidate =
      .ok { p with candidates := [some ⟨required, p.count, p.cursor.mark⟩] } := by
    simp [Progress.addCandidate, h.allowed, dropCandidate, h.candidates, h.inFlow, required, bind,
      Except.bind, pure, Except.pure]
  refine ⟨required, q, q, ?_, hdrop, arrive_self hdrop (startsToken_colon rest) (.inr hdeep),
    by simp [named, q], ?_⟩
  · rw [htake, takePlain, hadd]
    simp only [bind, Except.bind, inFlow_single, hscan]
    rfl
  · rw [h.rest]
    simp only [named, List.length_append, List.length_cons]
    omega

/-- A colon in front of white space is the mark of a value. -/
theorem takeToken_colon (h : p.cursor.rest = ':' :: rest) (hrest : atSpace rest = true) :
    p.takeToken = p.takeValue := by
  have hmark (x : Char) (hx : ':' ≠ x) : p.cursor.atMarker x = false := atMarker_of_rest h hx
  simp [takeToken, h, hrest, hmark '-' (by decide), hmark '.' (by decide)]

/-- The mapping that a key opens where no collection is as deep as the key. -/
def opens (stack : List Nat) (column : Nat) : List Symbol :=
  if top stack < column then [.blockMappingStart] else []

/-- The collections that are open at a key. -/
def inside (stack : List Nat) (column : Nat) : List Nat :=
  if top stack < column then column :: stack else stack

/-- The colon makes a key of the name in front of it. -/
theorem Stands.takeColon (h : p.Stands ss stack true (name ++ ':' :: rest)) (hname : IsName name)
    (hrest : atSpace rest = true) (required : Bool) :
    ∃ r, (p.named name rest required).takeToken = .ok r ∧
      r.Stands (ss ++ opens stack p.cursor.mark.column ++
        [.key, .scalar (String.ofList name) .plain, .value]) (inside stack p.cursor.mark.column)
        false rest ∧
      r.cursor.mark.column = p.cursor.mark.column + name.length + 1 := by
  let q := p.named name rest required
  let keyed := q.insert p.count .key p.cursor.mark
  let opened := keyed.openBlock p.cursor.mark.column p.count .blockMappingStart p.cursor.mark
  have htake : q.takeToken = .ok { opened.take .value 1 with candidates := [none], keyAllowed := false } := by
    rw [takeToken_colon rfl hrest]
    rfl
  -- the colon is passed on its line
  have hskip : opened.cursor.skip 1 = ⟨rest, (p.cursor.mark.past name).past [':']⟩ := by
    have hcursor : opened.cursor = ⟨':' :: rest, p.cursor.mark.past name⟩ := by
      simp only [opened, Progress.openBlock]
      split <;> rfl
    rw [hcursor]
    exact Cursor.skip_one rfl rest _
  refine ⟨_, htake, ?_, ?_⟩
  · have hflow : keyed.inFlow = false := rfl
    have hindent : keyed.indent = top stack := h.indent
    have htext : (opened.take .value 1).cursor.rest = rest := congrArg Cursor.rest hskip
    unfold opens inside
    by_cases hdeeper : top stack < p.cursor.mark.column
    · -- the start of the mapping goes in front of the key, and both in front of the name
      have hopened : opened = { keyed.insert p.count .blockMappingStart p.cursor.mark with
          indent := p.cursor.mark.column, outer := p.indent :: p.outer } := by
        have hopens : (!keyed.inFlow && decide (keyed.indent < p.cursor.mark.column)) = true := by
          simp [hflow, hindent, hdeeper]
        simp only [opened, Progress.openBlock]
        rw [if_pos (by simpa using hopens)]
        rfl
      have hbehind : p.tokens.length + 1 + 1 - p.tokens.length = 2 := by omega
      rw [if_pos hdeeper, if_pos hdeeper]
      refine ⟨?_, ?_, ?_, rfl, rfl, htext⟩
      · simp [hopened, keyed, q, Progress.take, push, insert, named, h.count, hbehind, ← h.symbols]
      · simp [hopened, keyed, q, Progress.take, push, insert, named, h.count, hbehind]
      · simp [hopened, Progress.take, push, h.blocks]
    · -- the mapping is open already
      have hopened : opened = keyed := by
        simp only [opened, Progress.openBlock, hflow, hindent, hdeeper]
        rfl
      rw [if_neg hdeeper, if_neg hdeeper]
      refine ⟨?_, ?_, ?_, rfl, rfl, htext⟩
      · simp [hopened, keyed, q, Progress.take, push, insert, named, ← h.symbols]
      · simp [hopened, keyed, q, Progress.take, push, insert, named, h.count]
      · rw [hopened]
        exact h.blocks
  · show (opened.cursor.skip 1).mark.column = _
    rw [hskip, past_name hname]
    rfl

/-- Behind a key, the innermost collection is the one that the key is in. -/
theorem top_inside {column : Nat} (h : top stack ≤ column) : top (inside stack column) = column := by
  unfold inside
  by_cases hdeeper : top stack < column
  · rw [if_pos hdeeper]
    rfl
  · rw [if_neg hdeeper]
    exact Int.le_antisymm h (Int.not_lt.mp hdeeper)

/-- The tokens that a key adds in a collection. -/
def keySymbols (stack : List Nat) (column : Nat) (name : String) : List Symbol :=
  opens stack column ++ [.key, .scalar name .plain, .value]

/-- A key on the way to its value. -/
theorem Stands.hop_key (h : p.Stands ss stack true (name ++ ':' :: rest)) (hname : IsName name)
    (hrest : atSpace rest = true) (hcolumn : top stack ≤ p.cursor.mark.column) :
    ∃ q r before, Hop p q ∧ q.takeToken = .ok r ∧
      ss ++ keySymbols stack p.cursor.mark.column (String.ofList name) = before ++ [.value] ∧
      r.Stands (before ++ [.value]) (inside stack p.cursor.mark.column) false rest ∧
      r.cursor.mark.column = p.cursor.mark.column + name.length + 1 ∧
      rest.length < q.cursor.rest.length := by
  obtain ⟨required, hhop⟩ := h.hop_name hname hrest hcolumn
  obtain ⟨r, htake, hr, hmark⟩ := h.takeColon hname hrest required
  have hsplit : ss ++ keySymbols stack p.cursor.mark.column (String.ofList name) =
      (ss ++ opens stack p.cursor.mark.column ++ [.key, .scalar (String.ofList name) .plain]) ++
        [.value] := by simp [keySymbols]
  refine ⟨_, r, _, hhop, htake, hsplit, ?_, hmark, Nat.lt_succ_self _⟩
  rw [← hsplit, keySymbols, ← List.append_assoc]
  exact hr

/-- A key whose value is on its line. -/
theorem Stands.reach_value (h : p.Stands ss stack true (name ++ ':' :: ' ' :: rest))
    (hname : IsName name) (hrest : StartsToken rest) (hcolumn : top stack ≤ p.cursor.mark.column) :
    ∃ q, Relation.ReflTransGen Hop p q ∧
      q.Stands (ss ++ keySymbols stack p.cursor.mark.column (String.ofList name))
        (inside stack p.cursor.mark.column) false rest ∧
      p.cursor.mark.column < q.cursor.mark.column := by
  obtain ⟨q, r, before, hhop, htake, hsplit, hr, hmark, hlength⟩ := h.hop_key hname rfl hcolumn
  have htop : top (inside stack p.cursor.mark.column) ≤ (r.cursor.mark.column : Int) := by
    rw [top_inside hcolumn, hmark]
    omega
  obtain ⟨q', hhop', hq', hmark'⟩ :=
    hop_of_blanks (n := 1) htake hr (by simp) hrest htop hlength
  rw [hsplit]
  exact ⟨q', (Relation.ReflTransGen.single hhop).tail hhop', hq', by omega⟩

theorem Stands.rests (h : p.Stands ss stack allowed rest) : p.Rests ss stack :=
  ⟨h.symbols, h.count, h.blocks, none, h.candidates, nofun⟩

/-- A key whose value is on the lines below it. -/
theorem Stands.reach_line {n : Nat}
    (h : p.Stands ss stack true (name ++ ':' :: '\n' :: (blanks n ++ rest)))
    (hname : IsName name) (hrest : StartsToken rest) (hcolumn : top stack ≤ p.cursor.mark.column) :
    ∃ q, Relation.ReflTransGen Hop p q ∧
      q.AtLine (ss ++ keySymbols stack p.cursor.mark.column (String.ofList name))
        (inside stack p.cursor.mark.column) (blanks n ++ rest) := by
  obtain ⟨q, r, before, hhop, htake, hsplit, hr, -, hlength⟩ := h.hop_key hname rfl hcolumn
  have hshorter : rest.length < q.cursor.rest.length := by
    simp only [List.length_cons, List.length_append] at hlength
    omega
  obtain ⟨q', hhop', hq'⟩ := hop_of_line htake hr.rests (by simp) hr.rest hrest hshorter
  rw [hsplit]
  exact ⟨q', (Relation.ReflTransGen.single hhop).tail hhop', hq'⟩

end

/-! ## Empty collections -/

/-- The brackets of an empty collection. -/
def brackets (mapping : Bool) : Char × Char := if mapping then ('{', '}') else ('[', ']')

def bracketSymbols (mapping : Bool) : Symbol × Symbol :=
  if mapping then (.flowMappingStart, .flowMappingEnd) else (.flowSequenceStart, .flowSequenceEnd)

theorem takeToken_openBracket (mapping : Bool)
    (h : p.cursor.rest = (brackets mapping).1 :: rest) :
    p.takeToken = p.takeFlowStart (bracketSymbols mapping).1 := by
  have hmark (x : Char) (hx : (brackets mapping).1 ≠ x) : p.cursor.atMarker x = false :=
    atMarker_of_rest h hx
  cases mapping with
  | false => simp [takeToken, h, hmark '-' (by decide), hmark '.' (by decide), brackets, bracketSymbols]
  | true => simp [takeToken, h, hmark '-' (by decide), hmark '.' (by decide), brackets, bracketSymbols]

theorem takeToken_closeBracket (mapping : Bool)
    (h : p.cursor.rest = (brackets mapping).2 :: rest) :
    p.takeToken = p.takeFlowEnd (bracketSymbols mapping).2 := by
  have hmark (x : Char) (hx : (brackets mapping).2 ≠ x) : p.cursor.atMarker x = false :=
    atMarker_of_rest h hx
  cases mapping with
  | false => simp [takeToken, h, hmark '-' (by decide), hmark '.' (by decide), brackets, bracketSymbols]
  | true => simp [takeToken, h, hmark '-' (by decide), hmark '.' (by decide), brackets, bracketSymbols]

/-- A pair of brackets at the end of a line. -/
theorem Stands.reach_brackets {I k : Nat} {tail : List Char} (mapping : Bool)
    (h : p.Stands ss (I :: stack) allowed
      ((brackets mapping).1 :: (brackets mapping).2 :: '\n' :: (blanks k ++ tail)))
    (hcolumn : I < p.cursor.mark.column) (htail : StartsToken tail) :
    ∃ q, Relation.ReflTransGen Hop p q ∧
      q.AtLine (ss ++ [(bracketSymbols mapping).1, (bracketSymbols mapping).2]) (I :: stack)
        (blanks k ++ tail) := by
  obtain ⟨c, hadd, hc⟩ := h.addCandidate (Int.ofNat_lt.mpr hcolumn)
  obtain ⟨hopen, hclose, hstarts⟩ : isBreak (brackets mapping).1 = false ∧
      isBreak (brackets mapping).2 = false ∧
      ∀ rest, StartsToken ((brackets mapping).2 :: rest) := by
    cases mapping <;> simp [brackets, StartsToken, isBreak, isBlank]
  obtain ⟨hnext, hnext'⟩ : (bracketSymbols mapping).1 ≠ .textEnd ∧
      (bracketSymbols mapping).2 ≠ .textEnd := by
    cases mapping <;> simp [bracketSymbols]
  -- between the brackets
  let q : Progress := { ({ p with candidates := [c] } : Progress).take (bracketSymbols mapping).1 1 with
    candidates := [none, c], keyAllowed := true }
  have hq : q.cursor = ⟨(brackets mapping).2 :: '\n' :: (blanks k ++ tail),
      p.cursor.mark.past [(brackets mapping).1]⟩ := by
    show p.cursor.skip 1 = _
    have hcursor : p.cursor = ⟨_, p.cursor.mark⟩ := congrArg (Cursor.mk · p.cursor.mark) h.rest
    rw [hcursor]
    exact Cursor.skip_one hopen _ _
  have htake : p.takeToken = .ok q := by
    rw [takeToken_openBracket mapping h.rest, takeFlowStart, hadd]
    rfl
  -- a candidate in front of the brackets is still on its line
  have hdrop : q.dropStale = .ok q := by
    cases c with
    | none => rfl
    | some k =>
      have hstale : isStale q.cursor.mark k = false := by
        simp [isStale, hq, (hc k rfl).2, Mark.past, hopen]
      have hkept : [none, some k].reverse.mapM (dropStaleOne q.cursor.mark) =
          .ok [some k, none] := by
        simp [dropStaleOne, hstale, bind, Except.bind, pure, Except.pure]
      exact congrArg (Except.map fun kept => { q with candidates := kept.reverse }) hkept
  have hhop : Hop p q := by
    refine ⟨q, q, htake, hdrop, arrive_self hdrop ?_ (.inl rfl), ?_, ?_⟩
    · rw [hq]
      exact hstarts _
    · exact fun hlast => hnext (Option.some.inj hlast)
    · rw [hq, h.rest]
      exact Nat.lt_succ_self _
  -- behind them
  let r : Progress := { q.take (bracketSymbols mapping).2 1 with
    candidates := [c], keyAllowed := false }
  have hr : r.cursor = ⟨'\n' :: (blanks k ++ tail),
      (p.cursor.mark.past [(brackets mapping).1]).past [(brackets mapping).2]⟩ := by
    show q.cursor.skip 1 = _
    rw [hq]
    exact Cursor.skip_one hclose _ _
  have htake' : q.takeToken = .ok r := by
    rw [takeToken_closeBracket mapping (congrArg Cursor.rest hq), takeFlowEnd]
    rfl
  have hrests : r.Rests ((ss ++ [(bracketSymbols mapping).1]) ++ [(bracketSymbols mapping).2])
      (I :: stack) := by
    refine ⟨?_, ?_, h.blocks, c, rfl, fun k hk => ⟨(hc k hk).1, ?_⟩⟩
    · simp [r, q, Progress.take, push, ← h.symbols]
    · simp [r, q, Progress.take, push, h.count]
    · rw [(hc k hk).2, hr, ← Mark.past_append]
      exact Mark.line_le_past _ _
  obtain ⟨q', hhop', hq'⟩ := hop_of_line htake' hrests hnext' (congrArg Cursor.rest hr) htail (by
    rw [hq]
    simp only [List.length_cons, List.length_append]
    omega)
  rw [List.append_assoc] at hq'
  exact ⟨q', (Relation.ReflTransGen.single hhop).tail hhop', hq'⟩

end Progress

end AmountPad.Yaml
