import AmountPad.Json.Writer
import AmountPad.Yaml.Resolve

/-!
# Values written as YAML

A value is written in block style. Each scalar takes the plainest style in which a reader gets the
same string back.

* `styleOf` — the choice of that style;
* `scalar` — a text in that style;
* `write` — a whole value. The names of members are written as they are.

A text with a line feed becomes a literal, one that would be taken for another kind of value is put
in single quotes, and every other text stays plain. Where that style cannot hold the text, single
and then double quotes take its place: double quotes hold every text, for they have escapes.
-/

namespace AmountPad.Yaml.Writer

/-! ## What a text looks like to a reader -/

/-- Characters that a scalar may show as they are. -/
def isPrintable (c : Char) : Bool :=
  c == '\n' || (' ' ≤ c && c ≤ '~') ||
    (0xA0 ≤ c.toNat && c.toNat != 0xFEFF && c.toNat != 0xFFFE && c.toNat != 0xFFFF)

/-- Characters with which no plain scalar starts. -/
def reserved : List Char :=
  ['#', ',', '[', ']', '{', '}', '&', '*', '!', '|', '>', '\'', '"', '%', '@', '\x60']

/-- Whether a text starts like something other than a plain scalar. -/
def startsOther (cs : List Char) : Bool :=
  ['-', '-', '-'].isPrefixOf cs || ['.', '.', '.'].isPrefixOf cs ||
    match cs with
    | [] => false
    | c :: rest => reserved.contains c || (c == '-' || c == '?') && atSpace rest

/-- Whether a plain scalar would end inside a text: at a colon with white space behind it, or at a
number sign with white space before it. -/
def endsInside : Bool → List Char → Bool
  | _, [] => false
  | afterSpace, c :: rest =>
    c == ':' && atSpace rest || c == '#' && afterSpace || endsInside (isBlank c || isBreak c) rest

/-- Whether a character of one class is directly followed by one of another. -/
def hasPair (p q : Char → Bool) : List Char → Bool
  | a :: b :: rest => p a && q b || hasPair p q (b :: rest)
  | _ => false

/-- Whether a text starts or ends with a character of a class. -/
def hasAtEdge (p : Char → Bool) (cs : List Char) : Bool := cs.head?.any p || cs.getLast?.any p

def isSpace (c : Char) : Bool := c == ' '

/-- Texts that only double quotes hold: those with a character that must be escaped, or with blanks
at the end of a line. -/
def needsDouble (cs : List Char) : Bool := cs.any (!isPrintable ·) || hasPair isSpace isBreak cs

/-- Texts that a plain scalar holds. -/
def fitsPlain (cs : List Char) : Bool :=
  !(needsDouble cs || cs.any isBreak || hasAtEdge isSpace cs || startsOther cs ||
    endsInside true cs)

/-- Texts that single quotes hold. -/
def fitsSingle (cs : List Char) : Bool := !(needsDouble cs || hasPair isBreak isSpace cs)

/-- Texts that a literal holds. -/
def fitsLiteral (cs : List Char) : Bool := !(needsDouble cs || cs.getLast?.any isSpace)

/-- Texts that stand for themselves in a plain scalar, and are not another kind of value. -/
def isPlainText (s : String) : Bool := Found.ofPlain s == .text s && !isZeroPadded s.toList

/-! ## Styles -/

/-- The style in which a text is written. -/
def styleOf (s : String) : Style :=
  let cs := s.toList
  if cs.contains '\n' then if fitsLiteral cs then .literal else .doubleQuoted
  else if isPlainText s && fitsPlain cs then .plain
  else if fitsSingle cs then .singleQuoted
  else .doubleQuoted

/-- So many blanks. -/
def blanks (count : Nat) : List Char := List.replicate count ' '

/-- A text between single quotes: a quote is written twice, and lines after the first are
indented. The flag tells whether a line starts here. -/
def singleBody (indent : Nat) : Bool → List Char → List Char
  | atStart, [] => if atStart then blanks indent else []
  | atStart, c :: rest =>
    if isBreak c then c :: singleBody indent true rest
    else
      (if atStart then blanks indent else []) ++ (if c = '\'' then ['\'', '\''] else [c]) ++
        singleBody indent false rest

/-- A number of at most `width` digits in upper-case hexadecimal. -/
def hexOfWidth (width n : Nat) : List Char :=
  let digits := (Text.hex n).map Char.toUpper
  List.replicate (width - digits.length) '0' ++ digits

/-- The escapes that are one character long. -/
def shortEscapes : List (Char × Char) :=
  [('\x00', '0'), ('\x07', 'a'), ('\x08', 'b'), ('\t', 't'), ('\n', 'n'), ('\x0b', 'v'),
    ('\x0c', 'f'), ('\r', 'r'), ('\x1b', 'e'), ('"', '"'), ('\\', '\\'), ('\u0085', 'N'),
    ('\u2028', 'L'), ('\u2029', 'P')]

/-- A character between double quotes. -/
def escapeChar (c : Char) : List Char :=
  match shortEscapes.lookup c with
  | some x => ['\\', x]
  | none =>
    if isPrintable c then [c]
    else if c.toNat ≤ 0xFF then '\\' :: 'x' :: hexOfWidth 2 c.toNat
    else if c.toNat ≤ 0xFFFF then '\\' :: 'u' :: hexOfWidth 4 c.toNat
    else '\\' :: 'U' :: hexOfWidth 8 c.toNat

/-- The lines of a literal, each indented unless it is empty. The flag tells whether a line starts
here. -/
def literalBody (indent : Nat) : Bool → List Char → List Char
  | _, [] => []
  | atStart, c :: rest =>
    if isBreak c then c :: literalBody indent true rest
    else (if atStart then blanks indent else []) ++ c :: literalBody indent false rest

/-- How a literal's header tells what happens to the breaks at its end: none is there, exactly one,
or all are kept. -/
def keeping (cs : List Char) : List Char :=
  match cs.reverse with
  | c :: rest =>
    if !isBreak c then ['-']
    else match rest with
      | [] => ['+']
      | d :: _ => if isBreak d then ['+'] else []
  | [] => ['-']

/-- Levels of nesting differ by two blanks. -/
def step : Nat := 2

/-- The header of a literal. It gives the indentation where the first line does not show it. -/
def literalHeader (cs : List Char) : List Char :=
  let shown := match cs with
    | c :: _ => !(isSpace c || isBreak c)
    | [] => true
  '|' :: ((if shown then [] else Nat.toDigits 10 step) ++ keeping cs)

/-- A text as a scalar of a collection whose lines are indented by `indent`, with the end of its
last line. -/
def scalar (indent : Nat) (s : String) : List Char :=
  let cs := s.toList
  match styleOf s with
  | .literal =>
    literalHeader cs ++ '\n' :: literalBody (indent + step) true cs ++
      if cs.getLast?.any isBreak then [] else ['\n']
  | .plain => cs ++ ['\n']
  | .singleQuoted => '\'' :: singleBody (indent + step) false cs ++ ['\'', '\n']
  | _ => '"' :: cs.flatMap escapeChar ++ ['"', '\n']

/-! ## Values -/

/-- The text in front of an item or member: nothing on the line that led to the collection. -/
def margin (first : Bool) (indent : Nat) : List Char := if first then [] else blanks indent

open Json (Node)

mutual

/-- The items of a sequence that is indented by `indent`. The flag tells whether the line of the
first one is begun already. -/
def items (indent : Nat) : Bool → List Node → List Char
  | _, [] => []
  | begun, n :: rest =>
    margin begun indent ++ '-' :: ' ' :: item indent n ++ items indent false rest

/-- One item behind its dash. -/
def item (indent : Nat) : Node → List Char
  | .text s => scalar indent s
  | .list [] => ['[', ']', '\n']
  | .list (n :: rest) => items (indent + step) true (n :: rest)
  | .object [] => ['{', '}', '\n']
  | .object (m :: rest) => members (indent + step) true (m :: rest)

/-- The members of a mapping that is indented by `indent`. -/
def members (indent : Nat) : Bool → List (String × Node) → List Char
  | _, [] => []
  | begun, (name, n) :: rest =>
    margin begun indent ++ name.toList ++ ':' :: member indent n ++ members indent false rest

/-- The value of a member behind its colon. A sequence is not indented below its name. -/
def member (indent : Nat) : Node → List Char
  | .text s => ' ' :: scalar indent s
  | .list [] => [' ', '[', ']', '\n']
  | .list (n :: rest) => '\n' :: items indent false (n :: rest)
  | .object [] => [' ', '{', '}', '\n']
  | .object (m :: rest) => '\n' :: members (indent + step) false (m :: rest)

end

/-- A whole value: the text ends with a line break. -/
def write : Node → List Char
  | .text s => scalar 0 s
  | .list [] => ['[', ']', '\n']
  | .list (n :: rest) => items 0 true (n :: rest)
  | .object [] => ['{', '}', '\n']
  | .object (m :: rest) => members 0 true (m :: rest)

end AmountPad.Yaml.Writer
