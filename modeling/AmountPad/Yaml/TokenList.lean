import AmountPad.Yaml.Scalar.Block
import AmountPad.Yaml.Scalar.Plain
import AmountPad.Yaml.Scalar.Quoted
import AmountPad.Yaml.Token

/-!
# From text to tokens

A text is read into a list of tokens. Two things make this more than a walk from token to token.

* Indentation opens and closes block collections, outside brackets only.
* A scalar may turn out to be a key when a colon follows it on its line. Until that is decided it is
  a *candidate*, and the tokens from it on are not settled: a fault met meanwhile comes before them.

`TokenList.ofText` gives the tokens that are settled, and the fault that ends them if there is one.
-/

namespace AmountPad.Yaml

/-- A token that may turn out to start a key. -/
structure Candidate where
  /-- Whether the place allows nothing but a key. -/
  required : Bool
  /-- The number of tokens in front of it. -/
  number : Nat
  mark : Mark
  deriving DecidableEq, Repr

/-- How far a text has been read. -/
structure Progress where
  cursor : Cursor
  /-- The tokens so far, the last one first. -/
  tokens : List Token := []
  count : Nat := 0
  /-- The column of the innermost block collection; one less than none outside of all. -/
  indent : Int := -1
  /-- The columns of the block collections around that one. -/
  outer : List Int := []
  /-- The candidate at each level of brackets, the innermost level first. -/
  candidates : List (Option Candidate) := [none]
  /-- Whether a key may start here. -/
  keyAllowed : Bool := true
  deriving DecidableEq, Repr

namespace Progress

/-- Whether the text stands inside brackets. -/
def inFlow (p : Progress) : Bool := decide (1 < p.candidates.length)

/-- Adds a token at the end. -/
def push (p : Progress) (symbol : Symbol) (start stop : Mark) : Progress :=
  { p with tokens := ⟨symbol, start, stop⟩ :: p.tokens, count := p.count + 1 }

/-- Adds a token of no extent behind the first `number` tokens. -/
def insert (p : Progress) (number : Nat) (symbol : Symbol) (mark : Mark) : Progress :=
  let behind := p.count - number
  { p with
    tokens := p.tokens.take behind ++ ⟨symbol, mark, mark⟩ :: p.tokens.drop behind
    count := p.count + 1 }

/-! ## White space -/

/-- Passes white space and comments up to the next token. A byte order mark may stand at the start
of a line, where it takes a column. Tabs count as white space inside brackets and where no key may
start. A line break allows a key outside brackets. The second argument bounds the number of
lines. -/
def toNextToken (p : Progress) : Nat → Progress
  | 0 => p
  | bound + 1 =>
    let c := p.cursor
    let c := if c.mark.column = 0 ∧ c.rest.head? = some '\ufeff' then c.skip 1 else c
    let tabs := p.inFlow || !p.keyAllowed
    let c := c.skipWhile fun x => x == ' ' || tabs && x == '\t'
    let c := match c.rest with
      | '#' :: _ => c.skipWhile (!isBreak ·)
      | _ => c
    match c.rest with
    | x :: _ =>
      if isBreak x then
        toNextToken { p with cursor := c.skipBreak, keyAllowed := p.keyAllowed || !p.inFlow } bound
      else { p with cursor := c }
    | [] => { p with cursor := c }

/-! ## Candidates for keys -/

/-- A key lies on one line and within 1024 characters. -/
def isStale (mark : Mark) (k : Candidate) : Bool :=
  decide (k.mark.line < mark.line) || decide (k.mark.index + 1024 < mark.index)

/-- Drops a candidate that can no longer become a key. -/
def dropStaleOne (mark : Mark) : Option Candidate → Except Fault (Option Candidate)
  | none => .ok none
  | some k =>
    if isStale mark k then
      if k.required then problemIn .missingColon mark .simpleKey k.mark else .ok none
    else .ok (some k)

/-- Drops the candidates that can no longer become keys, the outermost one first. -/
def dropStale (p : Progress) : Except Fault Progress := do
  let kept ← p.candidates.reverse.mapM (dropStaleOne p.cursor.mark)
  return { p with candidates := kept.reverse }

/-- Gives up the innermost candidate. -/
def dropCandidate (p : Progress) : Except Fault Progress :=
  match p.candidates with
  | some k :: rest =>
    if k.required then problemIn .missingColon p.cursor.mark .simpleKey k.mark
    else .ok { p with candidates := none :: rest }
  | _ => .ok p

/-- Makes the next token a candidate where a key may start. -/
def addCandidate (p : Progress) : Except Fault Progress :=
  if p.keyAllowed then do
    let p ← p.dropCandidate
    let required := !p.inFlow && p.indent == (p.cursor.mark.column : Int)
    return { p with
      candidates := some ⟨required, p.count, p.cursor.mark⟩ :: p.candidates.drop 1 }
  else .ok p

/-- The number of tokens that no candidate can move any more. -/
def settled (p : Progress) : Nat :=
  (p.candidates.filterMap (·.map Candidate.number)).foldl min p.count

/-! ## Indentation -/

/-- Opens a block collection at a column if that is deeper than the innermost one. -/
def openBlock (p : Progress) (column number : Nat) (symbol : Symbol) (mark : Mark) : Progress :=
  if !p.inFlow && p.indent < (column : Int) then
    { p.insert number symbol mark with indent := column, outer := p.indent :: p.outer }
  else p

/-- Closes the block collections that are deeper than a column. -/
def closeBlocks (column : Int) : List Int → Progress → Progress
  | [], p => p
  | o :: outer, p =>
    if column < p.indent then
      closeBlocks column outer
        { p.push .blockEnd p.cursor.mark p.cursor.mark with indent := o, outer := outer }
    else p

/-- Closes the block collections that end in front of a column, outside brackets only. -/
def close (p : Progress) (column : Int) : Progress :=
  if p.inFlow then p else closeBlocks column p.outer p

/-! ## The single tokens -/

/-- Reads a token of `length` characters. -/
def take (p : Progress) (symbol : Symbol) (length : Nat) : Progress :=
  let next := p.cursor.skip length
  { p.push symbol p.cursor.mark next.mark with cursor := next }

/-- The end of the text stands at the start of a line of its own. -/
def takeEnd (p : Progress) : Except Fault Progress := do
  let mark := p.cursor.mark
  let mark := if mark.column = 0 then mark else ⟨mark.index, mark.line + 1, 0⟩
  let p := { p with cursor := ⟨p.cursor.rest, mark⟩ }
  let p ← (p.close (-1)).dropCandidate
  return { p.push .textEnd mark mark with keyAllowed := false }

def takeDirective (p : Progress) : Except Fault Progress := do
  let p ← (p.close (-1)).dropCandidate
  let (directive, stop, next) ← scanDirective p.cursor
  let symbol := match directive with
    | .version major minor => Symbol.versionDirective major minor
    | .tag handle lead => .tagDirective handle lead
  return { p.push symbol p.cursor.mark stop with cursor := next, keyAllowed := false }

def takeMarker (p : Progress) (symbol : Symbol) : Except Fault Progress := do
  let p ← (p.close (-1)).dropCandidate
  return { p.take symbol 3 with keyAllowed := false }

def takeFlowStart (p : Progress) (symbol : Symbol) : Except Fault Progress := do
  let p ← p.addCandidate
  return { p.take symbol 1 with candidates := none :: p.candidates, keyAllowed := true }

def takeFlowEnd (p : Progress) (symbol : Symbol) : Except Fault Progress := do
  let p ← p.dropCandidate
  let candidates := if p.inFlow then p.candidates.drop 1 else p.candidates
  return { p.take symbol 1 with candidates := candidates, keyAllowed := false }

def takeFlowEntry (p : Progress) : Except Fault Progress := do
  let p ← p.dropCandidate
  return { p.take .flowEntry 1 with keyAllowed := true }

def takeBlockEntry (p : Progress) : Except Fault Progress := do
  let mark := p.cursor.mark
  if !p.inFlow && !p.keyAllowed then problemAt .strayEntry mark
  let p ← (p.openBlock mark.column p.count .blockSequenceStart mark).dropCandidate
  return { p.take .blockEntry 1 with keyAllowed := true }

def takeKey (p : Progress) : Except Fault Progress := do
  let mark := p.cursor.mark
  if !p.inFlow && !p.keyAllowed then problemAt .strayKey mark
  let p ← (p.openBlock mark.column p.count .blockMappingStart mark).dropCandidate
  return { p.take .key 1 with keyAllowed := !p.inFlow }

/-- A colon makes the innermost candidate a key; without a candidate it starts a value by itself. -/
def takeValue (p : Progress) : Except Fault Progress :=
  match p.candidates with
  | some k :: rest =>
    let p := p.insert k.number .key k.mark
    let p := p.openBlock k.mark.column k.number .blockMappingStart k.mark
    .ok { p.take .value 1 with candidates := none :: rest, keyAllowed := false }
  | _ => do
    let mark := p.cursor.mark
    if !p.inFlow && !p.keyAllowed then problemAt .strayValue mark
    let p := p.openBlock mark.column p.count .blockMappingStart mark
    return { p.take .value 1 with keyAllowed := !p.inFlow }

def takeName (p : Progress) (context : Context) (symbol : String → Symbol) :
    Except Fault Progress := do
  let p ← p.addCandidate
  let (name, next) ← scanName context p.cursor
  return { p.push (symbol name) p.cursor.mark next.mark with cursor := next, keyAllowed := false }

def takeTag (p : Progress) : Except Fault Progress := do
  let p ← p.addCandidate
  let (handle, suffix, next) ← scanTag p.inFlow p.cursor
  return { p.push (.tag handle suffix) p.cursor.mark next.mark with
    cursor := next, keyAllowed := false }

def takeBlockScalar (p : Progress) (literal : Bool) : Except Fault Progress := do
  let p ← p.dropCandidate
  let scan ← Block.scan literal p.indent p.cursor
  let style := if literal then Style.literal else .folded
  return { p.push (.scalar (String.ofList scan.text) style) p.cursor.mark scan.stop with
    cursor := scan.cursor, keyAllowed := true }

def takeQuoted (p : Progress) (single : Bool) : Except Fault Progress := do
  let p ← p.addCandidate
  let (text, next) ← Quoted.scan single p.cursor
  let style := if single then Style.singleQuoted else .doubleQuoted
  return { p.push (.scalar (String.ofList text) style) p.cursor.mark next.mark with
    cursor := next, keyAllowed := false }

def takePlain (p : Progress) : Except Fault Progress := do
  let p ← p.addCandidate
  let scan ← Plain.scan p.inFlow p.indent p.cursor
  return { p.push (.scalar (String.ofList scan.text) .plain) p.cursor.mark scan.stop with
    cursor := scan.cursor, keyAllowed := scan.brokeLine }

/-- Whether a plain scalar may start with a character that stands before a text. -/
def startsPlain (inFlow : Bool) (x : Char) (rest : List Char) : Bool :=
  let atBlank := match rest with
    | c :: _ => isBlank c
    | [] => false
  !(isBlank x || isBreak x || "-?:,[]\x7b\x7d#&*!|>'\"%@`".toList.contains x) ||
    x == '-' && !atBlank ||
    !inFlow && (x == '?' || x == ':') && !atSpace rest

/-- Reads the token in front. -/
def takeToken (p : Progress) : Except Fault Progress :=
  let c := p.cursor
  match c.rest with
  | [] => p.takeEnd
  | x :: rest =>
    if c.mark.column = 0 ∧ x = '%' then p.takeDirective
    else if c.atMarker '-' then p.takeMarker .documentStart
    else if c.atMarker '.' then p.takeMarker .documentEnd
    else if x = '[' then p.takeFlowStart .flowSequenceStart
    else if x = '{' then p.takeFlowStart .flowMappingStart
    else if x = ']' then p.takeFlowEnd .flowSequenceEnd
    else if x = '}' then p.takeFlowEnd .flowMappingEnd
    else if x = ',' then p.takeFlowEntry
    else if x = '-' ∧ atSpace rest then p.takeBlockEntry
    else if x = '?' ∧ (p.inFlow || atSpace rest) then p.takeKey
    else if x = ':' ∧ (p.inFlow || atSpace rest) then p.takeValue
    else if x = '*' then p.takeName .aliasName .aliasName
    else if x = '&' then p.takeName .anchor .anchor
    else if x = '!' then p.takeTag
    else if x = '|' ∧ ¬ p.inFlow then p.takeBlockScalar true
    else if x = '>' ∧ ¬ p.inFlow then p.takeBlockScalar false
    else if x = '\'' then p.takeQuoted true
    else if x = '"' then p.takeQuoted false
    else if startsPlain p.inFlow x rest then p.takePlain
    else problemIn .strayCharacter c.mark .nextToken c.mark

/-- Passes white space and reads one token, together with those that indentation adds. -/
def next (p : Progress) : Except Fault Progress := do
  let p ← (p.toNextToken (p.cursor.rest.length + 1)).dropStale
  (p.close p.cursor.mark.column).takeToken

end Progress

/-! ## Whole texts -/

/-- The settled tokens of a text and the fault that ends them. Without a fault the last token is the
end of the text. -/
structure TokenList where
  tokens : List Token
  fault : Option Fault
  deriving DecidableEq, Repr

namespace TokenList

/-- Reads tokens up to the end of the text or a fault. The first argument bounds the number of
steps. -/
def read : Nat → Nat → Progress → TokenList
  | 0, settled, p => ⟨p.tokens.reverse.take settled, none⟩
  | bound + 1, settled, p =>
    match p.next with
    | .error fault => ⟨p.tokens.reverse.take settled, some fault⟩
    | .ok p =>
      match p.dropStale with
      | .error fault => ⟨p.tokens.reverse.take settled, some fault⟩
      | .ok p =>
        if (p.tokens.head?.map Token.symbol) = some .textEnd then ⟨p.tokens.reverse, none⟩
        else read bound p.settled p

/-- Characters that may stand in a YAML text. -/
def isAllowed (c : Char) : Bool :=
  let n := c.toNat
  n == 0x09 || n == 0x0A || n == 0x0D || n == 0x85 ||
    decide (0x20 ≤ n ∧ n ≤ 0x7E ∨ 0xA0 ≤ n ∧ n ≤ 0xD7FF ∨ 0xE000 ≤ n ∧ n ≤ 0xFFFD ∨ 0x10000 ≤ n)

/-- The number of bytes in front of the first character that is not allowed. -/
def firstRefused? : Nat → List Char → Option Nat
  | _, [] => none
  | offset, c :: rest =>
    if isAllowed c then firstRefused? (offset + c.utf8Size) rest else some offset

/-- The tokens of a text. -/
def ofText (text : List Char) : TokenList :=
  match firstRefused? 0 text with
  | some offset => ⟨[], some (.controlCharacter offset)⟩
  | none => read (text.length + 1) 0 { cursor := ⟨text, {}⟩ }

end TokenList

end AmountPad.Yaml
