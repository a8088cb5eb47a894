import AmountPad.Text.Blank
import AmountPad.Text.Hex
import AmountPad.Text.Property.Letter

/-!
# Patterns for values

A regular expression that the value of a field has to match. No record gives a value to compare, so
that all that matters is whether a text is a pattern: `isPattern`.

A pattern is one that can be run without tables of characters and without going back in the text.
Outside of ASCII mode it has no classes by property, no word boundaries, and no letters that match
in either case; in ASCII mode no part of it may match a piece of a character. Counts in braces do
not occur, since a brace ends the field of which a pattern is the value.

* `Mode` — what the flags of a group change;
* `escape?`, `skipClass?` — an escape, and a class in brackets;
* `Reading` — what is known of a pattern part way through.
-/

namespace AmountPad.Log.Pattern

/-- How a group is read. -/
structure Mode where
  /-- Letters match in either case. -/
  anyCase : Bool := false
  /-- Classes are those of ASCII. -/
  ascii : Bool := false
  /-- White space and comments separate parts and mean nothing. -/
  spaced : Bool := false
  deriving DecidableEq, Repr

namespace Mode

/-- The mode with a flag set or taken back. -/
def set (m : Mode) (flag : Char) (on : Bool) : Mode :=
  match flag with
  | 'i' => { m with anyCase := on }
  | 'u' => { m with ascii := !on }
  | 'x' => { m with spaced := on }
  | _ => m

/-- Whether letters match in either case, in any script. -/
def foldsCase (m : Mode) : Bool := m.anyCase && !m.ascii

end Mode

/-- Passes white space, and comments up to the ends of their lines. -/
def passBlanks (inComment : Bool) : List Char → List Char
  | [] => []
  | c :: rest =>
    if inComment then passBlanks (c != '\n') rest
    else if Text.isBlank c then passBlanks false rest
    else if c = '#' then passBlanks true rest
    else c :: rest

/-- Passes what means nothing between two parts. -/
def Mode.pass (m : Mode) (cs : List Char) : List Char :=
  if m.spaced then passBlanks false cs else cs

/-! ## Parts -/

inductive Part where
  | char (c : Char)
  /-- A character by its two digits, which stand for a byte in ASCII mode. -/
  | byte (c : Char)
  /-- Digits, white space or the characters of words, or all but those. -/
  | kind (negated : Bool)
  /-- An end of the text or of a line. -/
  | place
  /-- An end of a word. -/
  | boundary
  deriving DecidableEq, Repr

/-- Whether a part may stand by itself. -/
def Part.isAllowed (m : Mode) : Part → Bool
  | .char _ => !m.foldsCase
  | .byte c => !m.foldsCase && !(m.ascii && 0x80 ≤ c.toNat)
  | .kind negated => m.ascii && !negated
  | .place => true
  | .boundary => m.ascii

/-- Whether a part may stand in a class. -/
def Part.isAllowedInClass (m : Mode) : Part → Bool
  | .char c | .byte c => !m.foldsCase && !(m.ascii && 0x80 ≤ c.toNat)
  | .kind negated => m.ascii && !negated
  | _ => false

/-- The character of a part that is one. -/
def Part.char? : Part → Option Char
  | .char c | .byte c => some c
  | _ => none

/-! ## Escapes -/

/-- Reads so many hexadecimal digits. -/
def hexDigits? (m : Mode) : Nat → List Char → Option (List Char × List Char)
  | 0, cs => some ([], cs)
  | _ + 1, [] => none
  | count + 1, c :: rest => do
    let (digits, rest) ← hexDigits? m count (m.pass rest)
    return (c :: digits, rest)

/-- Reads a character that is given by so many hexadecimal digits. -/
def codedChar? (m : Mode) (count : Nat) (cs : List Char) : Option (Char × List Char) := do
  let (digits, rest) ← hexDigits? m count (m.pass cs)
  let code ← Text.hexNumber? digits
  if h : code.isValidChar then return (Char.ofNatAux code h, rest) else none

/-- The character of an escape of one letter. -/
def lettered? : Char → Option Char
  | 'a' => some '\x07'
  | 'f' => some '\x0c'
  | 't' => some '\t'
  | 'n' => some '\n'
  | 'r' => some '\r'
  | 'v' => some '\x0b'
  | _ => none

/-- The characters of ASCII that stand for themselves behind a backslash. -/
def isEscapable (c : Char) : Bool := c.toNat < 0x80 && !c.isAlphanum && c != '<' && c != '>'

/-- Reads an escape behind its backslash. -/
def escape? (m : Mode) : List Char → Option (Part × List Char)
  | [] => none
  | c :: rest =>
    match c with
    | 'x' => (codedChar? m 2 rest).map fun (c, rest) => (.byte c, rest)
    | 'u' => (codedChar? m 4 rest).map fun (c, rest) => (.char c, rest)
    | 'U' => (codedChar? m 8 rest).map fun (c, rest) => (.char c, rest)
    | 'd' | 's' | 'w' => some (.kind false, rest)
    | 'D' | 'S' | 'W' => some (.kind true, rest)
    | 'A' | 'z' => some (.place, rest)
    | 'b' | 'B' | '<' | '>' => some (.boundary, rest)
    | c =>
      match lettered? c with
      | some x => some (.char x, rest)
      | none => if isEscapable c then some (.char c, rest) else none

/-! ## Classes -/

/-- The classes that have names. -/
def classNames : List String :=
  ["alnum", "alpha", "ascii", "blank", "cntrl", "digit", "graph", "lower", "print", "punct",
    "space", "upper", "word", "xdigit"]

/-- Reads a class by its name behind a bracket, and whether it is negated. -/
def namedClass? : List Char → Option (Bool × List Char)
  | ':' :: rest =>
    let negated := rest.head? == some '^'
    let rest := if negated then rest.drop 1 else rest
    let name := rest.takeWhile (· != ':')
    match rest.drop name.length with
    | ':' :: ']' :: rest =>
      if classNames.contains (String.ofList name) then some (negated, rest) else none
    | _ => none
  | _ => none

/-- Passes the start of a class behind its bracket: the sign that negates it, dashes that stand for
themselves, and a closing bracket that does so because nothing is in front of it. -/
def openClass? (m : Mode) (cs : List Char) : Option (List Char) :=
  let cs := m.pass cs
  let negated := cs.head? == some '^'
  let cs := if negated then m.pass (cs.drop 1) else cs
  let body := cs.dropWhile fun c => c == '-' || m.spaced && Text.isBlank c
  if negated && m.ascii || m.foldsCase then none
  else if cs.head? == some ']' then some (cs.drop 1)
  else some body

/-- Reads one character of a class. -/
def classPart? (m : Mode) : List Char → Option (Part × List Char)
  | [] => none
  | '\\' :: rest => escape? m rest
  | c :: rest => some (.char c, rest)

/-- Passes a character of a class, or a range of them. A dash makes a range unless it is the last
character of the class or the first of two dashes. -/
def passRange? (m : Mode) (cs : List Char) : Option (List Char) := do
  let (first, rest) ← classPart? m cs
  let rest := m.pass rest
  if !first.isAllowedInClass m then none
  match rest with
  | '-' :: more =>
    let more := m.pass more
    if more.head? == some ']' || more.head? == some '-' then return rest
    let (last, behind) ← classPart? m more
    if last.isAllowedInClass m && (← first.char?) ≤ (← last.char?) then return behind else none
  | _ => return rest

/-- Passes a class from its opening bracket on, inside of `depth` others. The first argument bounds
the number of steps. -/
def skipClass? (m : Mode) : Nat → Nat → List Char → Option (List Char)
  | 0, _, _ => none
  | bound + 1, depth, cs =>
    match m.pass cs with
    | [] => none
    | '[' :: rest =>
      match if 0 < depth then namedClass? rest else none with
      | some (negated, rest) => if negated && m.ascii then none else skipClass? m bound depth rest
      | none => (openClass? m rest).bind (skipClass? m bound (depth + 1))
    | ']' :: rest => if depth ≤ 1 then some rest else skipClass? m bound (depth - 1) rest
    | '&' :: '&' :: rest => skipClass? m bound depth rest
    | '-' :: '-' :: rest => skipClass? m bound depth rest
    | '~' :: '~' :: rest => skipClass? m bound depth rest
    | cs => (passRange? m cs).bind (skipClass? m bound depth)

/-! ## Groups -/

/-- Reads the name of a group up to its closing angle bracket. -/
def groupName? (cs : List Char) : Option (List Char × List Char) :=
  let name := cs.takeWhile (· != '>')
  let isInner (c : Char) := Text.isAlphanumeric c || "_.[]".toList.contains c
  match name, cs.drop name.length with
  | first :: more, _ :: rest =>
    let isName := (Text.isAlphabetic first || first == '_') && more.all isInner
    if isName then some (name, rest) else none
  | _, _ => none

/-- Reads flags up to the colon or the parenthesis behind them, and whether it is the latter. A dash
takes back the flags behind it, and there has to be one. No flag comes twice. -/
def readFlags? (m : Mode) (seen : List Char) : List Char → Option (Mode × Bool × List Char)
  | [] => none
  | c :: rest =>
    if c = ':' ∨ c = ')' then
      if seen.head? = some '-' ∨ c = ')' ∧ seen = [] then none else some (m, c == ')', rest)
    else if seen.contains c then none
    else if c = '-' then readFlags? m (c :: seen) rest
    else if "imsURux".toList.contains c then
      readFlags? (m.set c (!seen.contains '-')) (c :: seen) rest
    else none

/-! ## Patterns -/

/-- What is known of a pattern part way through. -/
structure Reading where
  mode : Mode := {}
  /-- The modes around the open groups, the innermost one first. -/
  outer : List Mode := []
  /-- Whether there is something in front that can be repeated. -/
  repeatable : Bool := false
  /-- The names of groups. -/
  names : List (List Char) := []
  deriving DecidableEq, Repr

namespace Reading

/-- Opens a group with a mode. -/
def enter (r : Reading) (mode : Mode) : Reading :=
  { r with mode := mode, outer := r.mode :: r.outer, repeatable := false }

/-- Opens a group with a name. -/
def enterNamed? (r : Reading) (cs : List Char) : Option (Reading × List Char) := do
  let (name, rest) ← groupName? cs
  if r.names.contains name then none
  else return ({ r.enter r.mode with names := name :: r.names }, rest)

/-- What an opening parenthesis starts: a group, or flags for the rest of the group around it. -/
def enter? (r : Reading) (cs : List Char) : Option (Reading × List Char) :=
  match r.mode.pass cs with
  | '?' :: 'P' :: '<' :: rest => r.enterNamed? rest
  | '?' :: '<' :: rest => r.enterNamed? rest
  | '?' :: rest => do
    let (mode, alone, rest) ← readFlags? r.mode [] rest
    return (if alone then { r with mode := mode, repeatable := false } else r.enter mode, rest)
  | rest => some (r.enter r.mode, rest)

/-- Takes a part if it is allowed. -/
def take? (r : Reading) (part : Part) (rest : List Char) : Option (Reading × List Char) :=
  if part.isAllowed r.mode then some ({ r with repeatable := true }, rest) else none

/-- Reads what a character starts. -/
def step? (r : Reading) (c : Char) (rest : List Char) : Option (Reading × List Char) :=
  match c with
  | '(' => r.enter? rest
  | ')' =>
    match r.outer with
    | [] => none
    | mode :: outer => some ({ r with mode := mode, outer := outer, repeatable := true }, rest)
  | '|' => some ({ r with repeatable := false }, rest)
  | '[' =>
    (skipClass? r.mode (rest.length + 2) 0 (c :: rest)).map fun rest =>
      ({ r with repeatable := true }, rest)
  | '?' | '*' | '+' =>
    if r.repeatable then some (r, if rest.head? == some '?' then rest.drop 1 else rest) else none
  | '{' => none
  | '\\' => (escape? r.mode rest).bind fun (part, rest) => r.take? part rest
  | '.' => if r.mode.ascii then none else some ({ r with repeatable := true }, rest)
  | '^' | '$' => r.take? .place rest
  | c => r.take? (.char c) rest

end Reading

/-- Reads a pattern to its end, where no group may be open. The first argument bounds the number of
steps. -/
def isReadable : Nat → Reading → List Char → Bool
  | 0, _, _ => false
  | bound + 1, r, cs =>
    match r.mode.pass cs with
    | [] => r.outer.isEmpty
    | c :: rest =>
      match r.step? c rest with
      | some (r, rest) => isReadable bound r rest
      | none => false

end Pattern

/-- Whether a text is a pattern. -/
def isPattern (cs : List Char) : Bool := Pattern.isReadable (cs.length + 1) {} cs

end AmountPad.Log
