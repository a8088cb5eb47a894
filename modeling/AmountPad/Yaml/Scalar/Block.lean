import AmountPad.Yaml.Scalar.Gap

/-!
# Block scalars

A literal or folded scalar: a header line, then lines that are indented at least as far as the
first one. The header may fix the indentation and say what becomes of the line breaks at the end.
-/

namespace AmountPad.Yaml.Block

/-- What becomes of the line breaks at the end of the text. -/
inductive Chomping where
  | strip
  | clip
  | keep
  deriving DecidableEq, Repr

/-- What the header line says. -/
structure Header where
  chomping : Chomping
  /-- The indentation relative to the surrounding block, if given. -/
  increment : Option Nat
  deriving DecidableEq, Repr

def chomping? : List Char → Option Chomping
  | '+' :: _ => some .keep
  | '-' :: _ => some .strip
  | _ => none

/-- The digit of an indentation, if one is in front. -/
def increment? (start : Mark) (c : Cursor) : Except Fault (Option Nat) :=
  match c.rest with
  | x :: _ =>
    if x = '0' then problemIn .zeroIndent c.mark .blockScalar start
    else if x.isDigit then .ok (some (x.toNat - '0'.toNat))
    else .ok none
  | [] => .ok none

/-- Reads the header behind its first character: the two indicators in either order, a comment, and
the line break. -/
def scanHeader (start : Mark) (c : Cursor) : Except Fault (Header × Cursor) := do
  let (header, c) ←
    match chomping? c.rest with
    | some chomping => do
      let c := c.skip 1
      let increment ← increment? start c
      pure (Header.mk chomping increment, if increment.isSome then c.skip 1 else c)
    | none => do
      match ← increment? start c with
      | none => pure (Header.mk .clip none, c)
      | some n =>
        let c := c.skip 1
        match chomping? c.rest with
        | some chomping => pure (Header.mk chomping (some n), c.skip 1)
        | none => pure (Header.mk .clip (some n), c)
  let c := c.skipLineTail
  if !atBreak c.rest then problemIn .unfinishedLine c.mark .blockScalar start
  return (header, c.skipBreak)

/-- What stands between two lines of text. -/
structure Breaks where
  text : List Char
  /-- The largest column reached, which fixes the indentation where none is known. -/
  column : Nat
  /-- The place behind the last break. -/
  stop : Mark
  cursor : Cursor
  deriving DecidableEq, Repr

/-- Whether a column still belongs to the indentation. -/
def isIndenting (indent : Option Nat) (column : Nat) : Bool :=
  match indent with
  | none => true
  | some n => decide (column < n)

/-- Passes the indentation of a line. -/
def skipIndent (indent : Option Nat) (c : Cursor) : Cursor :=
  let blanks := (c.rest.takeWhile (· == ' ')).length
  match indent with
  | none => c.skip blanks
  | some n => c.skip (min blanks (n - c.mark.column))

/-- Passes indentation and line breaks up to the next line of text. The first argument bounds the
number of lines. -/
def scanBreaks (indent : Option Nat) (start : Mark) :
    Nat → Nat → Mark → Cursor → Except Fault Breaks
  | 0, column, stop, c => .ok ⟨[], column, stop, c⟩
  | bound + 1, column, stop, c => do
    let c := skipIndent indent c
    let column := max column c.mark.column
    match c.rest with
    | [] => return ⟨[], column, stop, c⟩
    | x :: _ =>
      if isIndenting indent c.mark.column && x == '\t' then
        problemIn .tabInIndent c.mark .blockScalar start
      if isBreak x then
        let next := c.skipBreak
        let more ← scanBreaks indent start bound column next.mark next
        return { more with text := c.breakText ++ more.text }
      else return ⟨[], column, stop, c⟩

/-- The text of a scalar and its end. -/
structure Scan where
  text : List Char
  stop : Mark
  cursor : Cursor
  deriving DecidableEq, Repr

/-- Whether a line starts with white space; such lines do not fold. -/
def startsBlank : List Char → Bool
  | [] => false
  | c :: _ => isBlank c

/-- What joins a line to the one before it. -/
def joint (literal blankBefore : Bool) (lineBreak breaks line : List Char) : List Char :=
  if !literal && lineBreak == ['\n'] && !blankBefore && !startsBlank line then
    if breaks = [] then [' '] else breaks
  else lineBreak ++ breaks

/-- The line breaks at the end that the text keeps. -/
def tail (chomping : Chomping) (lineBreak breaks : List Char) : List Char :=
  match chomping with
  | .strip => []
  | .clip => lineBreak
  | .keep => lineBreak ++ breaks

/-- Reads the lines that stand at column `indent`. The break behind the line before and the breaks
that follow it are pending. The first argument bounds the number of lines. -/
def lines (literal : Bool) (chomping : Chomping) (indent : Nat) (start : Mark) :
    Nat → Bool → List Char → Breaks → Except Fault Scan
  | 0, _, lineBreak, pending =>
    .ok ⟨tail chomping lineBreak pending.text, pending.stop, pending.cursor⟩
  | bound + 1, blankBefore, lineBreak, pending =>
    let c := pending.cursor
    if c.mark.column = indent ∧ c.rest ≠ [] then do
      let line := c.rest.takeWhile (!isBreak ·)
      let c := c.skip line.length
      let lead := joint literal blankBefore lineBreak pending.text line
      let next := c.skipBreak
      let breaks ← scanBreaks (some indent) start (next.rest.length + 1) 0 next.mark next
      let more ← lines literal chomping indent start bound (startsBlank line) c.breakText breaks
      return { more with text := lead ++ line ++ more.text }
    else .ok ⟨tail chomping lineBreak pending.text, pending.stop, c⟩

/-- Reads a block scalar inside a block that is indented by `indent`, the cursor being in front of
its first character. -/
def scan (literal : Bool) (indent : Int) (c : Cursor) : Except Fault Scan := do
  let start := c.mark
  let (header, c) ← scanHeader start (c.skip 1)
  let fixed := header.increment.map fun n => if 0 ≤ indent then indent.toNat + n else n
  let breaks ← scanBreaks fixed start (c.rest.length + 1) 0 c.mark c
  let column := fixed.getD (max breaks.column (max (indent + 1).toNat 1))
  lines literal header.chomping column start (c.rest.length + 1) false [] breaks

end AmountPad.Yaml.Block
