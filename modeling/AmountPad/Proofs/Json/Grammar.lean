import Mathlib
import AmountPad.Proofs.Json.Token

/-!
# JSON texts of a value

A value can be written in many ways: with blanks between its parts, and with strings and numbers
that are spelled in one way or another. Here it is said which texts are texts of a value, and which
tokens a reader meets in them. A string stands for its characters, so that no unpaired surrogate is
spelled; a number is what is spelled of it.

* `Value` — what a JSON text says;
* `SpellsString`, `SpellsNumber`, `Spells` — the texts of a string, of a number and of a value;
* `IsText` — texts of a value with blanks around it;
* `Stands` — the tokens of a value.

Main results:

* `scanQuoted_of_spells`, `Numeral.scan_of_spells` — strings and numbers are read as they are
  spelled;
* `stands_of_isText` — the tokens of a text of a value stand for the value.
-/

namespace AmountPad.Json

/-- What a JSON text says. Strings and names are what they stand for. -/
inductive Value where
  | null
  | bool (b : Bool)
  | number (n : Numeral)
  | text (s : String)
  | list (items : List Value)
  | object (members : List (String × Value))

/-! ## Texts -/

/-- Blanks, of which there may be any number between two tokens. -/
def Blanks (cs : List Char) : Prop := ∀ c ∈ cs, isBlank c = true

/-- The spellings of a character between quotes: the character itself, a letter behind a backslash,
and the number of its unit or of the pair of its units. -/
inductive SpellsChar : Char → List Char → Prop
  | plain {c : Char} : ¬c < ' ' → c ≠ '"' → c ≠ '\\' → SpellsChar c [c]
  | letter {c e : Char} : escaped? e = some c → SpellsChar c ['\\', e]
  | unit {a b c d : Char} {n : Nat} : Text.hexNumber? [a, b, c, d] = some n →
      isHighSurrogate n = false → isLowSurrogate n = false →
      SpellsChar (Char.ofNat n) ['\\', 'u', a, b, c, d]
  | pair {a b c d a' b' c' d' : Char} {high low : Nat} :
      Text.hexNumber? [a, b, c, d] = some high → Text.hexNumber? [a', b', c', d'] = some low →
      isHighSurrogate high = true → isLowSurrogate low = true →
      SpellsChar (pairChar high low) ['\\', 'u', a, b, c, d, '\\', 'u', a', b', c', d']

/-- The spellings of characters one behind the other. -/
inductive SpellsChars : List Char → List Char → Prop
  | nil : SpellsChars [] []
  | cons {c : Char} {s word body : List Char} : SpellsChar c word → SpellsChars s body →
      SpellsChars (c :: s) (word ++ body)

/-- The texts of a string. -/
def SpellsString (s : String) (cs : List Char) : Prop :=
  ∃ body, SpellsChars s.toList body ∧ cs = '"' :: (body ++ ['"'])

/-- Digits, of which there is at least one. -/
def Digits (cs : List Char) : Prop := cs ≠ [] ∧ ∀ c ∈ cs, c.isDigit = true

/-- The spellings of the digits behind the point. -/
inductive SpellsFraction : Option (List Char) → List Char → Prop
  | none : SpellsFraction none []
  | some {ds : List Char} : Digits ds → SpellsFraction (some ds) ('.' :: ds)

/-- The spellings of an exponent and its sign. -/
inductive SpellsExponent : Option (Bool × List Char) → List Char → Prop
  | none : SpellsExponent none []
  | unsigned {e : Char} {ds : List Char} : e = 'e' ∨ e = 'E' → Digits ds →
      SpellsExponent (some (false, ds)) (e :: ds)
  | plus {e : Char} {ds : List Char} : e = 'e' ∨ e = 'E' → Digits ds →
      SpellsExponent (some (false, ds)) (e :: '+' :: ds)
  | minus {e : Char} {ds : List Char} : e = 'e' ∨ e = 'E' → Digits ds →
      SpellsExponent (some (true, ds)) (e :: '-' :: ds)

/-- The texts of a number. Before the point a zero is only written if it stands alone. -/
def SpellsNumber (n : Numeral) (cs : List Char) : Prop :=
  ∃ fraction exponent, Digits n.whole ∧ (n.whole.head? = some '0' → n.whole = ['0']) ∧
    SpellsFraction n.fraction fraction ∧ SpellsExponent n.exponent exponent ∧
    cs = (if n.negative then ['-'] else []) ++ (n.whole ++ (fraction ++ exponent))

/-- What stands in front of an item or a member: blanks, and between two of them a comma. -/
inductive Separates : Bool → List Char → Prop
  | first {blanks : List Char} : Blanks blanks → Separates true blanks
  | next {before behind : List Char} : Blanks before → Blanks behind →
      Separates false (before ++ ',' :: behind)

mutual

/-- The texts of a value, without blanks around it. -/
inductive Spells : Value → List Char → Prop
  | null : Spells .null ['n', 'u', 'l', 'l']
  | yes : Spells (.bool true) ['t', 'r', 'u', 'e']
  | no : Spells (.bool false) ['f', 'a', 'l', 's', 'e']
  | number {n : Numeral} {cs : List Char} : SpellsNumber n cs → Spells (.number n) cs
  | text {s : String} {cs : List Char} : SpellsString s cs → Spells (.text s) cs
  | list {items : List Value} {inside : List Char} : SpellsItems true items inside →
      Spells (.list items) ('[' :: (inside ++ [']']))
  | object {members : List (String × Value)} {inside : List Char} :
      SpellsMembers true members inside → Spells (.object members) ('{' :: (inside ++ ['}']))

/-- The texts of items up to the closing bracket. -/
inductive SpellsItems : Bool → List Value → List Char → Prop
  | nil {first : Bool} {blanks : List Char} : Blanks blanks → SpellsItems first [] blanks
  | cons {first : Bool} {v : Value} {items : List Value} {separator own rest : List Char} :
      Separates first separator → Spells v own → SpellsItems false items rest →
      SpellsItems first (v :: items) (separator ++ (own ++ rest))

/-- The texts of members up to the closing brace. -/
inductive SpellsMembers : Bool → List (String × Value) → List Char → Prop
  | nil {first : Bool} {blanks : List Char} : Blanks blanks → SpellsMembers first [] blanks
  | cons {first : Bool} {name : String} {v : Value} {members : List (String × Value)}
      {separator word before behind own rest : List Char} :
      Separates first separator → SpellsString name word → Blanks before → Blanks behind →
      Spells v own → SpellsMembers false members rest →
      SpellsMembers first ((name, v) :: members)
        (separator ++ (word ++ (before ++ ':' :: (behind ++ (own ++ rest)))))

end

/-- The texts of a value. -/
def IsText (v : Value) (cs : List Char) : Prop :=
  ∃ before own behind, Blanks before ∧ Spells v own ∧ Blanks behind ∧
    cs = before ++ (own ++ behind)

/-! ## Tokens -/

/-- The comma in front of an item or a member that is not the first. -/
def separator (first : Bool) : List Token := if first then [] else [.comma]

@[simp] theorem separator_true : separator true = [] := rfl

@[simp] theorem separator_false : separator false = [.comma] := rfl

mutual

/-- The tokens of a value. A string may be spelled in several ways. -/
inductive Stands : Value → List Token → Prop
  | null : Stands .null [.null]
  | bool {b : Bool} : Stands (.bool b) [.bool b]
  | number {n : Numeral} : Stands (.number n) [.number n]
  | text {s : String} {t : QuotedText} : t.broken = none → t.decode = .ok s →
      Stands (.text s) [.text t]
  | list {items : List Value} {inside : List Token} : StandsItems true items inside →
      Stands (.list items) (.openList :: (inside ++ [.closeList]))
  | object {members : List (String × Value)} {inside : List Token} :
      StandsMembers true members inside →
      Stands (.object members) (.openObject :: (inside ++ [.closeObject]))

/-- The tokens of items. -/
inductive StandsItems : Bool → List Value → List Token → Prop
  | nil {first : Bool} : StandsItems first [] []
  | cons {first : Bool} {v : Value} {items : List Value} {own rest : List Token} :
      Stands v own → StandsItems false items rest →
      StandsItems first (v :: items) (separator first ++ (own ++ rest))

/-- The tokens of members. -/
inductive StandsMembers : Bool → List (String × Value) → List Token → Prop
  | nil {first : Bool} : StandsMembers first [] []
  | cons {first : Bool} {name : String} {t : QuotedText} {v : Value}
      {members : List (String × Value)} {own rest : List Token} :
      t.broken = none → t.decode = .ok name → Stands v own → StandsMembers false members rest →
      StandsMembers first ((name, v) :: members)
        (separator first ++ (.text t :: .colon :: (own ++ rest)))

end

/-! ## Strings are read as they are spelled -/

/-- No letter of an escape announces a number. -/
theorem ne_u_of_escaped? {e c : Char} (h : escaped? e = some c) : e ≠ 'u' := by
  rintro rfl
  cases h

/-- A string is read up to its closing quote, and stands for what was spelled. -/
theorem scanQuoted_of_spells {s body : List Char} (h : SpellsChars s body) (rest : List Char) :
    ∃ pieces, scanQuoted (body ++ '"' :: rest) = (⟨pieces, none⟩, rest) ∧
      decodePieces none pieces = .ok s := by
  induction h with
  | nil => exact ⟨[], by rw [List.nil_append, scanQuoted], rfl⟩
  | @cons c s word body hc _ ih =>
    obtain ⟨pieces, hscan, hdecode⟩ := ih
    cases hc with
    | plain hcontrol hquote hslash =>
      refine ⟨.char c :: pieces, ?_, ?_⟩
      · rw [List.append_assoc, List.singleton_append, scanQuoted, if_neg hcontrol, hscan]
        -- neither a quote nor any kind of escape
        · exact hquote
        · exact fun _ _ _ _ _ h _ => hslash h
        · exact fun _ h _ => hslash h
        · exact fun _ _ h _ => hslash h
        · exact fun h _ => hslash h
      · rw [decodePieces, hdecode]
        rfl
    | @letter _ e he =>
      have hu := ne_u_of_escaped? he
      refine ⟨.char c :: pieces, ?_, ?_⟩
      · show scanQuoted ('\\' :: e :: (body ++ '"' :: rest)) = _
        rw [scanQuoted, he]
        · dsimp only
          rw [hscan]
        · exact fun _ _ _ _ _ h _ => hu h
        · exact hu
      · rw [decodePieces, hdecode]
        rfl
    | @unit a b c d n hn hhigh hlow =>
      refine ⟨.unit n :: pieces, ?_, ?_⟩
      · show scanQuoted ('\\' :: 'u' :: a :: b :: c :: d :: (body ++ '"' :: rest)) = _
        rw [scanQuoted, hn]
        dsimp only
        rw [hscan]
      · simp only [decodePieces.eq_def none (_ :: _), hlow, hhigh, hdecode]
        rfl
    | @pair a b c d a' b' c' d' high low hn hm hhigh hlow =>
      -- a unit that opens a pair does not close one
      have hopen : isLowSurrogate high = false := by
        unfold isHighSurrogate at hhigh
        unfold isLowSurrogate
        rw [decide_eq_true_eq] at hhigh
        exact decide_eq_false (by omega)
      refine ⟨.unit high :: .unit low :: pieces, ?_, ?_⟩
      · show scanQuoted ('\\' :: 'u' :: a :: b :: c :: d :: '\\' :: 'u' :: a' :: b' :: c' :: d' ::
          (body ++ '"' :: rest)) = _
        rw [scanQuoted, hn]
        dsimp only
        rw [scanQuoted, hm]
        dsimp only
        rw [hscan]
      · simp only [decodePieces.eq_def none (_ :: _), hopen, hhigh, hlow, hdecode]
        rfl

/-! ## Numbers are read as they are spelled -/

/-- What may follow a value: a blank, a comma or a closing bracket, if anything. -/
def Delimits (rest : List Char) : Prop :=
  ∀ c ∈ rest.head?, isBlank c = true ∨ c = ',' ∨ c = ']' ∨ c = '}'

namespace Numeral

/-- The texts that go on with something else than a digit. -/
def DigitsEnd (rest : List Char) : Prop := ∀ c ∈ rest.head?, c.isDigit = false

/-- A run of digits is read up to the first character that is none. -/
theorem scanDigits_append {ds rest : List Char} (hds : Digits ds) (hrest : DigitsEnd rest) :
    scanDigits (ds ++ rest) = .ok (ds, rest) := by
  obtain ⟨hne, hall⟩ := hds
  -- the run of digits is cut off exactly where the rest begins
  have htake : (ds ++ rest).takeWhile Char.isDigit = ds := by
    rw [List.takeWhile_append_of_pos hall]
    cases rest with
    | nil => simp
    | cons c rest => simp [hrest c rfl]
  have hdrop : (ds ++ rest).dropWhile Char.isDigit = rest := by
    rw [List.dropWhile_append_of_pos hall]
    cases rest with
    | nil => rfl
    | cons c rest => simp [hrest c rfl]
  cases ds with
  | nil => exact absurd rfl hne
  | cons d ds =>
    rw [List.cons_append] at htake hdrop ⊢
    rw [scanDigits, if_pos (hall d List.mem_cons_self), htake, hdrop]

/-- The digits before the point are read as a whole: a zero is read alone, any other run to its end.
-/
theorem scanWhole_append {ds rest : List Char} (hds : Digits ds)
    (hzero : ds.head? = some '0' → ds = ['0']) (hrest : DigitsEnd rest) :
    scanWhole (ds ++ rest) = .ok (ds, rest) := by
  by_cases h : ds.head? = some '0'
  · rw [hzero h]
    cases rest with
    | nil => rfl
    | cons c rest =>
      show (if c.isDigit then _ else _) = _
      rw [hrest c rfl]
      rfl
  · rw [scanWhole, scanDigits_append hds hrest]
    -- a first digit that is no zero is not looked at
    rintro rest' heq
    obtain ⟨d, ds, rfl⟩ := List.exists_cons_of_ne_nil hds.1
    injection heq with hd _
    exact h (congrArg some hd)

/-- The digits behind the point are read if there is a point, and nothing is read if there is none.
-/
theorem scanFraction_append {fraction : Option (List Char)} {cs rest : List Char}
    (h : SpellsFraction fraction cs) (hrest : DigitsEnd rest) (hpoint : rest.head? ≠ some '.') :
    scanFraction (cs ++ rest) = .ok (fraction, rest) := by
  cases h with
  | none =>
    rw [List.nil_append, scanFraction]
    rintro rest' rfl
    exact hpoint rfl
  | some hds =>
    rw [List.cons_append, scanFraction, scanDigits_append hds hrest]
    rfl

/-- An exponent is read with its sign, and nothing is read where a value may end. -/
theorem scanExponent_append {exponent : Option (Bool × List Char)} {cs rest : List Char}
    (h : SpellsExponent exponent cs) (hrest : Delimits rest) (hdigit : DigitsEnd rest) :
    scanExponent (cs ++ rest) = .ok (exponent, rest) := by
  cases h with
  | none =>
    cases rest with
    | nil => rfl
    | cons c rest =>
      have hc : ¬(c = 'e' ∨ c = 'E') := by
        rintro (rfl | rfl) <;> exact absurd (hrest _ rfl) (by decide)
      exact if_neg hc
  | @unsigned e ds he hds =>
    have hscan := scanDigits_append hds hdigit
    obtain ⟨d, ds, rfl⟩ := List.exists_cons_of_ne_nil hds.1
    have hd := hds.2 d List.mem_cons_self
    have hplus : d ≠ '+' := by rintro rfl; cases hd
    have hminus : d ≠ '-' := by rintro rfl; cases hd
    rw [List.cons_append, scanExponent]
    · dsimp only
      rw [if_pos he, hscan]
      rfl
    -- the first digit is no sign
    · exact fun _ h => hplus (List.cons.inj h).1
    · exact fun _ h => hminus (List.cons.inj h).1
  | plus he hds =>
    rw [List.cons_append, List.cons_append, scanExponent]
    dsimp only
    rw [if_pos he, scanDigits_append hds hdigit]
    rfl
  | minus he hds =>
    rw [List.cons_append, List.cons_append, scanExponent]
    dsimp only
    rw [if_pos he, scanDigits_append hds hdigit]
    rfl

/-! ### What follows the parts of a number -/

/-- What may follow a value goes on with no part of a number. -/
theorem not_delimits_digit {c : Char} {rest : List Char} (h : Delimits (c :: rest)) :
    c.isDigit = false ∧ c ≠ '.' := by
  have hc := h c rfl
  rw [isBlank] at hc
  simp only [Bool.or_eq_true, beq_iff_eq] at hc
  obtain (((rfl | rfl) | rfl) | rfl) | rfl | rfl | rfl := hc
  all_goals exact ⟨rfl, by decide⟩

theorem digitsEnd_of_delimits {rest : List Char} (h : Delimits rest) : DigitsEnd rest := by
  cases rest with
  | nil => exact nofun
  | cons c rest =>
    rintro _ ⟨⟩
    exact (not_delimits_digit h).1

/-- An exponent, or what follows in its place, goes on with neither a digit nor a point. -/
theorem digitsEnd_exponent {exponent : Option (Bool × List Char)} {cs rest : List Char}
    (h : SpellsExponent exponent cs) (hrest : Delimits rest) :
    DigitsEnd (cs ++ rest) ∧ (cs ++ rest).head? ≠ some '.' := by
  have letter {e : Char} {tail : List Char} (he : e = 'e' ∨ e = 'E') :
      DigitsEnd (e :: tail) ∧ (e :: tail).head? ≠ some '.' := by
    obtain rfl | rfl := he <;> exact ⟨fun _ h => by cases h; rfl, by simp⟩
  cases h with
  | none =>
    refine ⟨digitsEnd_of_delimits hrest, fun h => ?_⟩
    obtain ⟨tail, rfl⟩ := List.head?_eq_some_iff.1 h
    exact (not_delimits_digit hrest).2 rfl
  | unsigned he _ => exact letter he
  | plus he _ => exact letter he
  | minus he _ => exact letter he

/-- The digits before the point end where a fraction starts. -/
theorem digitsEnd_fraction {fraction : Option (List Char)} {cs rest : List Char}
    (h : SpellsFraction fraction cs) (hrest : DigitsEnd rest) : DigitsEnd (cs ++ rest) := by
  cases h with
  | none => exact hrest
  | some _ => exact fun _ h => by cases h; rfl

/-! ### Whole numbers -/

/-- A number is read up to where it ends, and is what is spelled of it. -/
theorem scan_of_spells {n : Numeral} {cs rest : List Char} (h : SpellsNumber n cs)
    (hrest : Delimits rest) : scan (cs ++ rest) = .ok (n, rest) := by
  obtain ⟨fraction, exponent, hwhole, hzero, hfraction, hexponent, rfl⟩ := h
  obtain ⟨hend, hpoint⟩ := digitsEnd_exponent hexponent hrest
  have hunsigned : scanUnsigned n.negative (n.whole ++ (fraction ++ (exponent ++ rest))) =
      .ok (n, rest) := by
    simp only [scanUnsigned, bind, Except.bind, pure, Except.pure,
      scanWhole_append hwhole hzero (digitsEnd_fraction hfraction hend),
      scanFraction_append hfraction hend hpoint,
      scanExponent_append hexponent hrest (digitsEnd_of_delimits hrest)]
  rw [List.append_assoc, List.append_assoc, List.append_assoc]
  cases hsign : n.negative with
  | true => rwa [hsign] at hunsigned
  | false =>
    rw [hsign] at hunsigned
    rw [if_neg Bool.false_ne_true, List.nil_append, scan, hunsigned]
    -- a digit is no sign
    intro tail heq
    obtain ⟨d, ds, hds⟩ := List.exists_cons_of_ne_nil hwhole.1
    have hd := hwhole.2 d (hds ▸ List.mem_cons_self)
    rw [hds, List.cons_append] at heq
    obtain ⟨rfl, _⟩ := List.cons.inj heq
    cases hd

/-- A number starts with its sign or a digit, by which the reader knows it. -/
theorem exists_cons_of_spells {n : Numeral} {cs : List Char} (h : SpellsNumber n cs) :
    ∃ c tail, cs = c :: tail ∧ (c = '-' ∨ c.isDigit = true) := by
  obtain ⟨fraction, exponent, hwhole, -, -, -, rfl⟩ := h
  cases n.negative with
  | true => exact ⟨'-', _, rfl, .inl rfl⟩
  | false =>
    obtain ⟨d, ds, hds⟩ := List.exists_cons_of_ne_nil hwhole.1
    exact ⟨d, _, by rw [hds]; rfl, .inr (hwhole.2 d (hds ▸ List.mem_cons_self))⟩

end Numeral

/-! ## Values are met as they are spelled -/

/-- Blanks in front of a text are passed over. -/
theorem tokens_blanks {blanks : List Char} (h : Blanks blanks) (rest : List Char) :
    tokens (blanks ++ rest) = tokens rest := by
  induction blanks with
  | nil => rfl
  | cons c blanks ih =>
    rw [List.cons_append, tokens_blank (h c List.mem_cons_self),
      ih fun d hd => h d (List.mem_cons_of_mem _ hd)]

/-- A spelled string is met as one token, which is whole and stands for the string. -/
theorem tokens_string {s : String} {cs : List Char} (h : SpellsString s cs) (rest : List Char) :
    ∃ t : QuotedText, t.broken = none ∧ t.decode = .ok s ∧
      tokens (cs ++ rest) = .text t :: tokens rest := by
  obtain ⟨body, hbody, rfl⟩ := h
  obtain ⟨pieces, hscan, hdecode⟩ := scanQuoted_of_spells hbody rest
  refine ⟨⟨pieces, none⟩, rfl, ?_, ?_⟩
  · rw [QuotedText.decode, hdecode, Except.map, String.ofList_toList]
  · rw [List.cons_append, List.append_assoc, List.singleton_append]
    refine tokens_cons rfl ?_
    rw [nextToken, hscan]
    rfl

/-- A spelled number is met as one token if what follows may follow a value. -/
theorem tokens_number {n : Numeral} {cs rest : List Char} (h : SpellsNumber n cs)
    (hrest : Delimits rest) : tokens (cs ++ rest) = .number n :: tokens rest := by
  obtain ⟨c, tail, rfl, hc⟩ := Numeral.exists_cons_of_spells h
  have hscan := Numeral.scan_of_spells h hrest
  rw [List.cons_append] at hscan ⊢
  refine tokens_cons ?_ ?_
  · rw [Bool.eq_false_iff]
    intro hblank
    simp only [isBlank, Bool.or_eq_true, beq_iff_eq] at hblank
    obtain ((rfl | rfl) | rfl) | rfl := hblank
    all_goals exact absurd hc (by decide)
  · rw [nextToken, if_pos hc, hscan]
    -- no other token starts like a number
    all_goals
      rintro rfl
      exact absurd hc (by decide)

/-- What separates two items is met as a comma, and what stands before the first one as nothing. -/
theorem tokens_separates {first : Bool} {cs : List Char} (h : Separates first cs)
    (rest : List Char) : tokens (cs ++ rest) = separator first ++ tokens rest := by
  cases h with
  | first h => exact tokens_blanks h rest
  | next hbefore hbehind =>
    rw [List.append_assoc, tokens_blanks hbefore, List.cons_append, tokens_comma,
      tokens_blanks hbehind]
    rfl

/-! ### What follows an item or a member -/

theorem delimits_blanks {blanks rest : List Char} (h : Blanks blanks) (hrest : Delimits rest) :
    Delimits (blanks ++ rest) := by
  cases blanks with
  | nil => exact hrest
  | cons c blanks =>
    rintro _ ⟨⟩
    exact .inl (h c List.mem_cons_self)

/-- The comma behind an item ends its value. -/
theorem delimits_separates {cs : List Char} (h : Separates false cs) (rest : List Char) :
    Delimits (cs ++ rest) := by
  cases h with
  | next hbefore _ =>
    rw [List.append_assoc]
    exact delimits_blanks hbefore fun _ h => by cases h; decide

/-- Behind an item stands the comma of the next one or the closing bracket, and either ends its
value. -/
theorem delimits_items {items : List Value} {cs : List Char} (h : SpellsItems false items cs)
    (tail : List Char) : Delimits (cs ++ ']' :: tail) := by
  cases h with
  | nil h => exact delimits_blanks h fun _ h => by cases h; decide
  | cons h _ _ =>
    rw [List.append_assoc]
    exact delimits_separates h _

theorem delimits_members {members : List (String × Value)} {cs : List Char}
    (h : SpellsMembers false members cs) (tail : List Char) : Delimits (cs ++ '}' :: tail) := by
  cases h with
  | nil h => exact delimits_blanks h fun _ h => by cases h; decide
  | cons h _ _ _ _ _ =>
    rw [List.append_assoc]
    exact delimits_separates h _

/-! ### Values -/

mutual

/-- In a text that starts with a value a reader meets tokens of the value first. -/
theorem tokens_of_spells : ∀ (v : Value) {cs rest : List Char}, Spells v cs → Delimits rest →
    ∃ ts, Stands v ts ∧ tokens (cs ++ rest) = ts ++ tokens rest
  | .null, _, _, .null, _ => ⟨_, .null, tokens_cons rfl rfl⟩
  | .bool _, _, _, .yes, _ => ⟨_, .bool, tokens_cons rfl rfl⟩
  | .bool _, _, _, .no, _ => ⟨_, .bool, tokens_cons rfl rfl⟩
  | .number _, _, _, .number h, hrest => ⟨_, .number, tokens_number h hrest⟩
  | .text _, _, rest, .text h, _ =>
    let ⟨_, hbroken, hdecode, htokens⟩ := tokens_string h rest
    ⟨_, .text hbroken hdecode, htokens⟩
  | .list items, _, rest, .list h, _ => by
    -- the brackets are tokens of their own around those of the items
    obtain ⟨ts, hts, htokens⟩ := tokens_of_spellsItems items h rest
    refine ⟨_, .list hts, ?_⟩
    rw [List.cons_append, tokens_openList, List.append_assoc, List.singleton_append, htokens]
    simp
  | .object members, _, rest, .object h, _ => by
    obtain ⟨ts, hts, htokens⟩ := tokens_of_spellsMembers members h rest
    refine ⟨_, .object hts, ?_⟩
    rw [List.cons_append, tokens_openObject, List.append_assoc, List.singleton_append, htokens]
    simp

/-- The items of a list are met one after the other, up to the bracket that closes it. -/
theorem tokens_of_spellsItems : ∀ (items : List Value) {first : Bool} {cs : List Char},
    SpellsItems first items cs → ∀ tail : List Char,
      ∃ ts, StandsItems first items ts ∧
        tokens (cs ++ ']' :: tail) = ts ++ .closeList :: tokens tail
  | [], _, _, .nil h, tail => ⟨[], .nil, by rw [tokens_blanks h, tokens_closeList]; rfl⟩
  | v :: items, _, _, .cons hseparator hown hitems, tail => by
    obtain ⟨rest, hrest, htokens⟩ := tokens_of_spellsItems items hitems tail
    obtain ⟨own, hv, hfirst⟩ := tokens_of_spells v hown (delimits_items hitems tail)
    refine ⟨_, .cons hv hrest, ?_⟩
    rw [List.append_assoc, List.append_assoc, tokens_separates hseparator, hfirst, htokens]
    simp

/-- The members of an object are met each with its name, a colon and its value, up to the brace that
closes it. -/
theorem tokens_of_spellsMembers : ∀ (members : List (String × Value)) {first : Bool}
    {cs : List Char}, SpellsMembers first members cs → ∀ tail : List Char,
      ∃ ts, StandsMembers first members ts ∧
        tokens (cs ++ '}' :: tail) = ts ++ .closeObject :: tokens tail
  | [], _, _, .nil h, tail => ⟨[], .nil, by rw [tokens_blanks h, tokens_closeObject]; rfl⟩
  | (name, v) :: members, _, _, h, tail => by
    cases h with
    | @cons _ _ _ _ _ word before behind text after hseparator hname hbefore hbehind hown
        hmembers =>
      -- read from behind: the other members, then the value, then the name
      obtain ⟨rest, hrest, htokens⟩ := tokens_of_spellsMembers members hmembers tail
      obtain ⟨own, hv, hfirst⟩ := tokens_of_spells v hown (delimits_members hmembers tail)
      obtain ⟨t, hbroken, hdecode, hword⟩ :=
        tokens_string hname (before ++ ':' :: (behind ++ (text ++ (after ++ '}' :: tail))))
      refine ⟨_, .cons hbroken hdecode hv hrest, ?_⟩
      simp only [List.append_assoc, List.cons_append]
      rw [tokens_separates hseparator, hword, tokens_blanks hbefore, tokens_colon,
        tokens_blanks hbehind, hfirst, htokens]

end

/-- **The tokens of a text of a value stand for the value**, wherever blanks stand in the text and
however its strings and numbers are spelled. -/
theorem stands_of_isText {v : Value} {cs : List Char} (h : IsText v cs) : Stands v (tokens cs) := by
  obtain ⟨before, own, behind, hbefore, hown, hbehind, rfl⟩ := h
  have hend : tokens behind = [] := by simpa [tokens_nil] using tokens_blanks hbehind []
  have hnil : Delimits [] := nofun
  have hrest : Delimits behind := by simpa using delimits_blanks hbehind hnil
  obtain ⟨ts, hts, htokens⟩ := tokens_of_spells v hown hrest
  rw [tokens_blanks hbefore, htokens, hend, List.append_nil]
  exact hts

/-! ## Written texts are texts of what is written -/

mutual

/-- What is written of a node. -/
def Node.value : Node → Value
  | .text s => .text s
  | .list items => .list (itemValues items)
  | .object members => .object (memberValues members)

def itemValues : List Node → List Value
  | [] => []
  | n :: items => n.value :: itemValues items

def memberValues : List (String × Node) → List (String × Value)
  | [] => []
  | (name, n) :: members => (name, n.value) :: memberValues members

end

theorem blanks_nil : Blanks [] := nofun

/-- What is written of a character between quotes is a spelling of it. -/
theorem spellsChar_escapeChar (c : Char) : SpellsChar c (escapeChar c) := by
  unfold escapeChar
  split
  case h_8 hquote hslash _ _ _ _ _ =>
    split
    · next hcontrol =>
      -- a control character is spelled by its number, which is that of no surrogate
      have hlt : c.toNat < 32 := hcontrol
      have hhigh : isHighSurrogate c.toNat = false := decide_eq_false (by omega)
      have hlow : isLowSurrogate c.toNat = false := decide_eq_false (by omega)
      have hunit := SpellsChar.unit (hexNumber?_control c.toNat hlt) hhigh hlow
      rwa [Char.ofNat_toNat] at hunit
    · next hcontrol => exact .plain hcontrol hquote hslash
  all_goals exact .letter rfl

/-- What is written of a string is a text of it. -/
theorem spellsString_quoted (s : String) : SpellsString s (quoted s) := by
  refine ⟨s.toList.flatMap escapeChar, ?_, rfl⟩
  induction s.toList with
  | nil => exact .nil
  | cons c cs ih => exact .cons (spellsChar_escapeChar c) ih

/-- The comma between two written items or members. -/
theorem separates_comma (first : Bool) : Separates first (if first then [] else [',']) := by
  cases first with
  | true => exact .first blanks_nil
  | false => exact .next blanks_nil blanks_nil

mutual

/-- What is written without blanks is a text of what is written. -/
theorem spells_compact : ∀ n : Node, Spells n.value n.compact
  | .text s => by
    rw [Node.value, Node.compact]
    exact .text (spellsString_quoted s)
  | .list items => by
    rw [Node.value, Node.compact]
    exact .list (spellsItems_compact true items)
  | .object members => by
    rw [Node.value, Node.compact]
    exact .object (spellsMembers_compact true members)

/-- Items that are written with nothing but commas between them are spelled. -/
theorem spellsItems_compact : ∀ (first : Bool) (items : List Node),
    SpellsItems first (itemValues items) (Node.compactItems first items)
  | first, [] => .nil blanks_nil
  | first, n :: items => by
    rw [itemValues, Node.compactItems, List.append_assoc]
    exact .cons (separates_comma first) (spells_compact n) (spellsItems_compact false items)

theorem spellsMembers_compact : ∀ (first : Bool) (members : List (String × Node)),
    SpellsMembers first (memberValues members) (Node.compactMembers first members)
  | first, [] => .nil blanks_nil
  | first, (name, n) :: members => by
    rw [memberValues, Node.compactMembers]
    simp only [List.append_assoc, List.cons_append]
    exact .cons (separates_comma first) (spellsString_quoted name) blanks_nil blanks_nil
      (spells_compact n) (spellsMembers_compact false members)

end

/-- A node that is written without blanks is a text of its value. -/
theorem isText_compact (n : Node) : IsText n.value (String.ofList n.compact).toList := by
  rw [String.toList_ofList]
  exact ⟨[], n.compact, [], blanks_nil, spells_compact n, blanks_nil, by simp⟩

end AmountPad.Json
