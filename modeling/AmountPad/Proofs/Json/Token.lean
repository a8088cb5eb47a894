import Mathlib
import AmountPad.Json.Token
import AmountPad.Json.Writer

/-!
# Tokens of written texts

What is written of a value depends on the way of writing it, compact or over several lines, but not
the tokens that a reader meets in it. They can be told from the value alone: strings whose spelled
pieces stand for their characters, and the punctuation around them.

* `QuotedText.of` — a string as it is written; `Node.tokens` — the tokens of a value.

Main results:

* `QuotedText.decode_of` — a written string stands for itself;
* `tokens_compact`, `tokens_pretty` — the tokens of a text that starts with a written value.
-/

namespace AmountPad.Json

/-! ## Strings -/

/-- How a character of a string is spelled: a control character without a letter of its own is given
by its number. -/
def Piece.of (c : Char) : Piece :=
  if c < ' ' ∧ c ∉ ['\x08', '\x0c', '\n', '\r', '\t'] then .unit c.toNat else .char c

/-- A string as it is written. -/
def QuotedText.of (s : String) : QuotedText := ⟨s.toList.map Piece.of, none⟩

/-- The four digits that are written for a control character spell its number. -/
theorem hexNumber?_control : ∀ n < 32,
    Text.hexNumber? ['0', '0', Nat.digitChar (n / 16), Nat.digitChar (n % 16)] = some n := by
  decide

/-- An escaped character is read as one piece. -/
theorem scanQuoted_escapeChar (c : Char) (cs : List Char) : scanQuoted (escapeChar c ++ cs) =
    (⟨.of c :: (scanQuoted cs).1.pieces, (scanQuoted cs).1.broken⟩, (scanQuoted cs).2) := by
  unfold escapeChar
  split
  -- the characters with a letter of their own
  case h_1 => simp [scanQuoted, escaped?, Piece.of]
  case h_2 => simp [scanQuoted, escaped?, Piece.of]
  case h_3 => simp [scanQuoted, escaped?, Piece.of]
  case h_4 => simp [scanQuoted, escaped?, Piece.of]
  case h_5 => simp [scanQuoted, escaped?, Piece.of]
  case h_6 => simp [scanQuoted, escaped?, Piece.of]
  case h_7 => simp [scanQuoted, escaped?, Piece.of]
  case h_8 hquote hslash hb hf hn hr ht =>
    by_cases hcontrol : c < ' '
    · have hplain : c ∉ ['\x08', '\x0c', '\n', '\r', '\t'] := by
        simp only [List.mem_cons, List.not_mem_nil, or_false, not_or]
        exact ⟨hb, hf, hn, hr, ht⟩
      have hpiece : Piece.of c = .unit c.toNat := if_pos ⟨hcontrol, hplain⟩
      have hdigits := hexNumber?_control c.toNat hcontrol
      simp [hcontrol, scanQuoted, hdigits, hpiece]
    · have hpiece : Piece.of c = .char c := if_neg fun h => hcontrol h.1
      rw [if_neg hcontrol, hpiece, List.singleton_append, scanQuoted]
      · simp [hcontrol]
      -- neither a quote nor any kind of escape
      · exact hquote
      · exact fun _ _ _ _ _ h _ => hslash h
      · exact fun _ h _ => hslash h
      · exact fun _ _ h _ => hslash h
      · exact fun h _ => hslash h

/-- A string is read up to its closing quote. -/
theorem scanQuoted_of (s : String) (rest : List Char) :
    scanQuoted (s.toList.flatMap escapeChar ++ '"' :: rest) = (.of s, rest) := by
  rw [QuotedText.of]
  induction s.toList with
  | nil => rfl
  | cons c cs ih =>
    rw [List.flatMap_cons, List.append_assoc, scanQuoted_escapeChar, ih]
    rfl

/-- A piece that was written stands for its character. -/
theorem decodePieces_of (cs : List Char) : decodePieces none (cs.map Piece.of) = .ok cs := by
  induction cs with
  | nil => rfl
  | cons c cs ih =>
    rw [List.map_cons, Piece.of]
    split
    · next h =>
      -- the number of a control character is not that of a surrogate
      have hlt : c.toNat < 32 := h.1
      have hlow : isLowSurrogate c.toNat = false := decide_eq_false (by omega)
      have hhigh : isHighSurrogate c.toNat = false := decide_eq_false (by omega)
      simp only [decodePieces.eq_def none (_ :: _), hlow, hhigh, ih]
      simp [bind, Except.bind, pure, Except.pure]
    · rw [decodePieces, ih]
      rfl

/-- A written string stands for itself. -/
theorem QuotedText.decode_of (s : String) : (QuotedText.of s).decode = .ok s := by
  rw [decode, of, decodePieces_of, Except.map, String.ofList_toList]

/-! ## Values -/

mutual

/-- The tokens of a value, whatever the way of writing it. -/
def Node.tokens : Node → List Token
  | .text s => [.text (.of s)]
  | .list items => .openList :: (itemTokens true items ++ [.closeList])
  | .object members => .openObject :: (memberTokens true members ++ [.closeObject])

/-- The tokens of items; a comma stands in front of each but the first. -/
def itemTokens : Bool → List Node → List Token
  | _, [] => []
  | first, n :: rest => (if first then [] else [.comma]) ++ n.tokens ++ itemTokens false rest

/-- The tokens of members. -/
def memberTokens : Bool → List (String × Node) → List Token
  | _, [] => []
  | first, (name, n) :: rest =>
    (if first then [] else [.comma]) ++ .text (.of name) :: .colon :: n.tokens ++
      memberTokens false rest

end

/-- The tokens of an object and of what follows, with its closing brace in front of the latter. -/
theorem tokens_object_append (members : List (String × Node)) (ts : List Token) :
    (Node.object members).tokens ++ ts =
      .openObject :: (memberTokens true members ++ .closeObject :: ts) := by
  rw [Node.tokens, List.cons_append, List.append_assoc, List.singleton_append]

/-! ## What a reader meets -/

theorem tokens_nil : tokens [] = [] := by rw [tokens]

/-- A character that is not blank starts a token, and behind it the others are met. -/
theorem tokens_cons {c : Char} {t : Token} {rest rest' : List Char} (hb : isBlank c = false)
    (h : nextToken c rest = (t, rest')) : tokens (c :: rest) = t :: tokens rest' := by
  rw [tokens, hb, h]
  rfl

/-- A blank is no token. -/
theorem tokens_blank {c : Char} (hb : isBlank c = true) (rest : List Char) :
    tokens (c :: rest) = tokens rest := by
  rw [tokens, hb]
  rfl

/-- A written string is met as one token. -/
theorem tokens_quoted (s : String) (rest : List Char) :
    tokens (quoted s ++ rest) = .text (.of s) :: tokens rest := by
  have hnext : nextToken '"' (s.toList.flatMap escapeChar ++ '"' :: rest) =
      (.text (.of s), rest) := by
    rw [nextToken, scanQuoted_of]
    rfl
  rw [quoted, List.cons_append, List.append_assoc, List.singleton_append]
  exact tokens_cons rfl hnext

/-- A line break and the indentation behind it are passed over. -/
theorem tokens_newLine (level : Nat) (rest : List Char) :
    tokens (Node.newLine level ++ rest) = tokens rest := by
  rw [Node.newLine, List.cons_append, tokens_blank rfl]
  induction 2 * level with
  | zero => rfl
  | succ n ih => rw [List.replicate_succ, List.cons_append, tokens_blank rfl, ih]

section Marks

variable (rest : List Char)

theorem tokens_openObject : tokens ('{' :: rest) = .openObject :: tokens rest :=
  tokens_cons rfl rfl

theorem tokens_closeObject : tokens ('}' :: rest) = .closeObject :: tokens rest :=
  tokens_cons rfl rfl

theorem tokens_openList : tokens ('[' :: rest) = .openList :: tokens rest := tokens_cons rfl rfl

theorem tokens_closeList : tokens (']' :: rest) = .closeList :: tokens rest := tokens_cons rfl rfl

theorem tokens_comma : tokens (',' :: rest) = .comma :: tokens rest := tokens_cons rfl rfl

theorem tokens_colon : tokens (':' :: rest) = .colon :: tokens rest := tokens_cons rfl rfl

end Marks

/-- The comma that may stand in front of an item or a member. -/
theorem tokens_separator (first : Bool) (rest : List Char) :
    tokens ((if first then [] else [',']) ++ rest) =
      (if first then [] else [Token.comma]) ++ tokens rest := by
  cases first with
  | true => rfl
  | false => exact tokens_comma rest

mutual

/-- The tokens of a text that starts with a value without white space. -/
theorem tokens_compact : ∀ (n : Node) (rest : List Char),
    tokens (n.compact ++ rest) = n.tokens ++ tokens rest
  | .text s, rest => by
    rw [Node.compact, tokens_quoted, Node.tokens]
    rfl
  | .list items, rest => by
    rw [Node.compact, Node.tokens, List.cons_append, tokens_openList, List.append_assoc,
      tokens_compactItems, List.singleton_append, tokens_closeList]
    simp
  | .object members, rest => by
    rw [Node.compact, Node.tokens, List.cons_append, tokens_openObject, List.append_assoc,
      tokens_compactMembers, List.singleton_append, tokens_closeObject]
    simp

/-- The tokens of items without white space, with the comma before each that is not the first. -/
theorem tokens_compactItems : ∀ (first : Bool) (items : List Node) (rest : List Char),
    tokens (Node.compactItems first items ++ rest) = itemTokens first items ++ tokens rest
  | first, [], rest => rfl
  | first, n :: items, rest => by
    rw [Node.compactItems, itemTokens, List.append_assoc, List.append_assoc, tokens_separator,
      tokens_compact n, tokens_compactItems false items]
    simp

/-- The tokens of members without white space, with the comma before each that is not the first. -/
theorem tokens_compactMembers : ∀ (first : Bool) (members : List (String × Node))
    (rest : List Char),
    tokens (Node.compactMembers first members ++ rest) = memberTokens first members ++ tokens rest
  | first, [], rest => rfl
  | first, (name, n) :: members, rest => by
    simp only [Node.compactMembers, memberTokens, List.append_assoc, List.cons_append]
    rw [tokens_separator, tokens_quoted, tokens_colon, tokens_compact n,
      tokens_compactMembers false members]

end

mutual

/-- The tokens of a text that starts with a value over several lines. -/
theorem tokens_pretty : ∀ (level : Nat) (n : Node) (rest : List Char),
    tokens (n.pretty level ++ rest) = n.tokens ++ tokens rest
  | level, .text s, rest => by
    rw [Node.pretty, tokens_quoted, Node.tokens]
    rfl
  | level, .list [], rest => by
    rw [Node.pretty, Node.tokens, List.cons_append, tokens_openList, List.singleton_append,
      tokens_closeList]
    rfl
  | level, .list (n :: items), rest => by
    simp only [Node.pretty, Node.tokens, itemTokens, List.append_assoc, List.cons_append,
      List.nil_append, if_true]
    rw [tokens_openList, tokens_newLine, tokens_pretty (level + 1) n,
      tokens_prettyItems (level + 1) items, tokens_newLine, tokens_closeList]
  | level, .object [], rest => by
    rw [Node.pretty, Node.tokens, List.cons_append, tokens_openObject, List.singleton_append,
      tokens_closeObject]
    rfl
  | level, .object ((name, n) :: members), rest => by
    simp only [Node.pretty, Node.tokens, memberTokens, List.append_assoc, List.cons_append,
      List.nil_append, if_true]
    rw [tokens_openObject, tokens_newLine, tokens_quoted, tokens_colon, tokens_blank rfl,
      tokens_pretty (level + 1) n, tokens_prettyMembers (level + 1) members, tokens_newLine,
      tokens_closeObject]

/-- The tokens of items that stand on lines of their own behind a first one. -/
theorem tokens_prettyItems : ∀ (level : Nat) (items : List Node) (rest : List Char),
    tokens (Node.prettyItems level items ++ rest) = itemTokens false items ++ tokens rest
  | level, [], rest => rfl
  | level, n :: items, rest => by
    simp only [Node.prettyItems, itemTokens, List.append_assoc, List.cons_append, List.nil_append,
      Bool.false_eq_true, if_false]
    rw [tokens_comma, tokens_newLine, tokens_pretty level n, tokens_prettyItems level items]

theorem tokens_prettyMembers : ∀ (level : Nat) (members : List (String × Node))
    (rest : List Char),
    tokens (Node.prettyMembers level members ++ rest) = memberTokens false members ++ tokens rest
  | level, [], rest => rfl
  | level, (name, n) :: members, rest => by
    simp only [Node.prettyMembers, memberTokens, List.append_assoc, List.cons_append,
      List.nil_append, Bool.false_eq_true, if_false]
    rw [tokens_comma, tokens_newLine, tokens_quoted, tokens_colon, tokens_blank rfl,
      tokens_pretty level n, tokens_prettyMembers level members]

end

end AmountPad.Json
