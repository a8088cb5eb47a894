/-!
# Places in a YAML text

* `Mark` — a place: characters passed, lines passed, characters passed on its line;
* `Cursor` — a place together with the text from there on;
* the character classes of YAML's lexical rules, where the end of the text counts as a class of its
  own.
-/

namespace AmountPad.Yaml

/-! ## Character classes -/

/-- A blank or a tab. -/
def isBlank (c : Char) : Bool := c == ' ' || c == '\t'

/-- A line break: the two of ASCII, the next-line character, and the two Unicode separators. -/
def isBreak (c : Char) : Bool :=
  c == '\r' || c == '\n' || c == '\u0085' || c == '\u2028' || c == '\u2029'

/-- Letters, digits, the low line and the dash, of which names consist. -/
def isWordChar (c : Char) : Bool := c.isAlphanum || c == '_' || c == '-'

/-- Whether a text ends or has a line break in front. -/
def atBreak : List Char → Bool
  | [] => true
  | c :: _ => isBreak c

/-- Whether a text ends or has white space in front. -/
def atSpace : List Char → Bool
  | [] => true
  | c :: _ => isBlank c || isBreak c

/-! ## Places -/

/-- A place in a text, counted in characters. -/
structure Mark where
  index : Nat := 0
  line : Nat := 0
  column : Nat := 0
  deriving DecidableEq, Repr

/-- The place where a text starts is the only one that messages do not name. -/
def Mark.isNamed (m : Mark) : Bool := m.line != 0 || m.column != 0

/-- A place and the text from there on. -/
structure Cursor where
  rest : List Char
  mark : Mark
  deriving DecidableEq, Repr

namespace Cursor

/-- The cursor behind `count` characters of the current line. -/
def skip (c : Cursor) (count : Nat) : Cursor :=
  ⟨c.rest.drop count,
    ⟨c.mark.index + count, c.mark.line, c.mark.column + count⟩⟩

/-- The cursor behind the characters of the current line that satisfy a condition. -/
def skipWhile (c : Cursor) (p : Char → Bool) : Cursor := c.skip (c.rest.takeWhile p).length

/-- The cursor behind a line break of `count` characters. -/
def newLine (c : Cursor) (count : Nat) : Cursor :=
  ⟨c.rest.drop count, ⟨c.mark.index + count, c.mark.line + 1, 0⟩⟩

/-- The cursor behind a line break, if one is in front. -/
def skipBreak (c : Cursor) : Cursor :=
  match c.rest with
  | '\r' :: '\n' :: _ => c.newLine 2
  | x :: _ => if isBreak x then c.newLine 1 else c
  | [] => c

/-- What a line break contributes to a scalar: the Unicode separators stand for themselves, every
other break for a line feed. -/
def breakText (c : Cursor) : List Char :=
  match c.rest with
  | x :: _ =>
    if x == '\u2028' || x == '\u2029' then [x] else if isBreak x then ['\n'] else []
  | [] => []

/-- Passes blanks and a comment that ends the line. -/
def skipLineTail (c : Cursor) : Cursor :=
  let c := c.skipWhile isBlank
  match c.rest with
  | '#' :: _ => c.skipWhile (!isBreak ·)
  | _ => c

/-- Whether a document marker made of three equal characters stands at the start of this line. -/
def atMarker (c : Cursor) (x : Char) : Bool :=
  c.mark.column == 0 &&
    match c.rest with
    | a :: b :: d :: rest => a == x && b == x && d == x && atSpace rest
    | _ => false

end Cursor

end AmountPad.Yaml
