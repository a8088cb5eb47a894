import AmountPad.Json.Number
import AmountPad.Text.Hex

/-!
# Tokens of JSON texts

A text is read as a list of tokens that ends at the first place where no token can be read; what is
wrong there is a token too. A reader therefore meets the faults of a text in their order.

* `QuotedText` — a string as spelled; `QuotedText.decode` resolves its escapes, which a reader that
  skips the string does not do;
* `Token`, `nextToken` and `tokens`.
-/

namespace AmountPad.Json

/-! ## Strings -/

/-- One spelled unit of a string: a character, or a 16-bit unit given by its number. -/
inductive Piece where
  | char (c : Char)
  | unit (n : Nat)
  deriving DecidableEq, Repr

/-- Why a string does not reach its closing quote. -/
inductive Break where
  | textEnds
  | controlCharacter
  | badEscape
  | badUnit
  deriving DecidableEq, Repr

def Break.fault : Break → Fault
  | .textEnds => .endInString
  | .controlCharacter => .controlCharacter
  | .badEscape => .invalidEscape
  | .badUnit => .invalidEscape

/-- The pieces of a string up to its closing quote or to what breaks it off. -/
structure QuotedText where
  pieces : List Piece
  broken : Option Break
  deriving DecidableEq, Repr

/-- The character of a one-letter escape. -/
def escaped? : Char → Option Char
  | '"' => some '"'
  | '\\' => some '\\'
  | '/' => some '/'
  | 'b' => some '\x08'
  | 'f' => some '\x0c'
  | 'n' => some '\n'
  | 'r' => some '\r'
  | 't' => some '\t'
  | _ => none

/-- The number of bytes that a text takes. -/
def byteCount (cs : List Char) : Nat := cs.foldl (fun n c => n + c.utf8Size) 0

/-- The string behind an opening quote, and the text behind its closing quote. -/
def scanQuoted : List Char → QuotedText × List Char
  | [] => (⟨[], some .textEnds⟩, [])
  | '"' :: rest => (⟨[], none⟩, rest)
  | '\\' :: 'u' :: a :: b :: c :: d :: rest =>
    match Text.hexNumber? [a, b, c, d] with
    | some n =>
      let (text, rest) := scanQuoted rest
      (⟨.unit n :: text.pieces, text.broken⟩, rest)
    | none => (⟨[], some .badUnit⟩, [])
  | '\\' :: 'u' :: rest =>
    (⟨[], some (if byteCount rest < 4 then .textEnds else .badUnit)⟩, [])
  | '\\' :: c :: rest =>
    match escaped? c with
    | some e =>
      let (text, rest) := scanQuoted rest
      (⟨.char e :: text.pieces, text.broken⟩, rest)
    | none => (⟨[], some .badEscape⟩, [])
  | ['\\'] => (⟨[], some .textEnds⟩, [])
  | c :: rest =>
    if c < ' ' then (⟨[], some .controlCharacter⟩, [])
    else
      let (text, rest) := scanQuoted rest
      (⟨.char c :: text.pieces, text.broken⟩, rest)

/-- Whether a unit opens a surrogate pair. -/
def isHighSurrogate (n : Nat) : Bool := decide (0xD800 ≤ n ∧ n ≤ 0xDBFF)

/-- Whether a unit closes a surrogate pair. -/
def isLowSurrogate (n : Nat) : Bool := decide (0xDC00 ≤ n ∧ n ≤ 0xDFFF)

/-- The character of a surrogate pair. -/
def pairChar (high low : Nat) : Char :=
  Char.ofNat ((high - 0xD800) * 0x400 + (low - 0xDC00) + 0x10000)

/-- What an unpaired opening surrogate runs into when no piece follows it. -/
def unpairedFault : Option Break → Fault
  | some .textEnds => .endInString
  | some .badUnit => .invalidEscape
  | _ => .unfinishedSurrogate

/-- The characters of a string: surrogates have to come in pairs. -/
def decodePieces (broken : Option Break) : List Piece → Except Fault (List Char)
  | [] =>
    match broken with
    | none => .ok []
    | some b => .error b.fault
  | .char c :: rest => do return c :: (← decodePieces broken rest)
  | .unit n :: rest =>
    if isLowSurrogate n then .error .loneSurrogate
    else if isHighSurrogate n then
      match rest with
      | .unit m :: rest =>
        if isLowSurrogate m then do return pairChar n m :: (← decodePieces broken rest)
        else .error .loneSurrogate
      | .char _ :: _ => .error .unfinishedSurrogate
      | [] => .error (unpairedFault broken)
    else do return Char.ofNat n :: (← decodePieces broken rest)

/-- The text that a string stands for. -/
def QuotedText.decode (t : QuotedText) : Except Fault String :=
  (decodePieces t.broken t.pieces).map String.ofList

/-! ## Tokens -/

inductive Token where
  | openObject
  | closeObject
  | openList
  | closeList
  | comma
  | colon
  | text (t : QuotedText)
  | number (n : Numeral)
  /-- A number that lacks a digit, at the end of the text or elsewhere. -/
  | brokenNumber (atEnd : Bool)
  | null
  | bool (b : Bool)
  /-- A misspelled word, cut off by the end of the text or otherwise. -/
  | brokenWord (atEnd : Bool)
  | other (c : Char)
  deriving DecidableEq, Repr

/-- Blanks between tokens. -/
def isBlank (c : Char) : Bool := c == ' ' || c == '\n' || c == '\t' || c == '\r'

/-- Reads the rest of a word that its first letter announced. -/
def scanWord (word : Token) : List Char → List Char → Token × List Char
  | [], rest => (word, rest)
  | _ :: _, [] => (.brokenWord true, [])
  | w :: ws, c :: rest => if w = c then scanWord word ws rest else (.brokenWord false, [])

/-- The token at a character and the text behind it; behind a faulty token nothing is read. -/
def nextToken (c : Char) (rest : List Char) : Token × List Char :=
  match c with
  | '{' => (.openObject, rest)
  | '}' => (.closeObject, rest)
  | '[' => (.openList, rest)
  | ']' => (.closeList, rest)
  | ',' => (.comma, rest)
  | ':' => (.colon, rest)
  | '"' =>
    let (text, rest) := scanQuoted rest
    (.text text, if text.broken.isSome then [] else rest)
  | 'n' => scanWord .null ['u', 'l', 'l'] rest
  | 't' => scanWord (.bool true) ['r', 'u', 'e'] rest
  | 'f' => scanWord (.bool false) ['a', 'l', 's', 'e'] rest
  | c =>
    if c = '-' ∨ c.isDigit then
      match Numeral.scan (c :: rest) with
      | .ok (n, rest) => (.number n, rest)
      | .error stop => (.brokenNumber (stop == .textEnds), [])
    else (.other c, [])

/-! ### Every token takes at least one character -/

/-- Where a string is at fault nothing is left of the text. Else what is left begins behind the
string, and each piece of it took a character at least. -/
theorem scanQuoted_length (cs : List Char) : (scanQuoted cs).2.length ≤ cs.length := by
  fun_induction scanQuoted cs with
  | case1 => exact Nat.le_refl 0
  | case2 rest => exact Nat.le_succ rest.length
  | case3 a b c d rest n _ text left hscan ih =>
    -- a unit takes six characters, and the rest of the string what it takes
    rw [hscan] at ih
    have hleft : left.length ≤ rest.length := ih
    simp only [List.length_cons]
    omega
  | case6 c rest _ _ e _ text left hscan ih =>
    rw [hscan] at ih
    have hleft : left.length ≤ rest.length := ih
    simp only [List.length_cons]
    omega
  | case10 c rest _ _ _ _ _ _ text left hscan ih =>
    rw [hscan] at ih
    exact Nat.le_succ_of_le ih
  -- a string that breaks off here
  | case4 | case5 | case7 | case8 | case9 => exact Nat.zero_le _

/-- A word that is misspelled leaves nothing of the text. -/
theorem scanWord_length (word : Token) (ws cs : List Char) :
    (scanWord word ws cs).2.length ≤ cs.length := by
  fun_induction scanWord word ws cs with
  | case1 rest => exact Nat.le_refl rest.length
  | case2 => exact Nat.le_refl 0
  | case3 ws c rest ih => exact Nat.le_succ_of_le ih
  | case4 => exact Nat.zero_le _

/-- The character that a token begins with is gone, so that the search for tokens comes to an
end. -/
theorem nextToken_length (c : Char) (rest : List Char) :
    (nextToken c rest).2.length ≤ rest.length := by
  unfold nextToken
  split <;> try exact Nat.le_refl _
  · have := scanQuoted_length rest
    dsimp only
    split
    · simp
    · exact this
  · exact scanWord_length ..
  · exact scanWord_length ..
  · exact scanWord_length ..
  · split
    · split
      · next h => exact Nat.le_of_lt_succ (Numeral.scan_length h)
      · simp
    · simp

/-- The tokens of a text up to the first faulty one. -/
def tokens : List Char → List Token
  | [] => []
  | c :: rest =>
    if isBlank c then tokens rest
    else (nextToken c rest).1 :: tokens (nextToken c rest).2
  termination_by cs => cs.length
  decreasing_by
    · simp
    · have := nextToken_length c rest
      simp
      omega

end AmountPad.Json
