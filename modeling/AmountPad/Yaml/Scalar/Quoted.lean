import AmountPad.Text.Hex
import AmountPad.Yaml.Scalar.Gap

/-!
# Quoted scalars

Between single quotes a quote is written twice and nothing else is special. Between double quotes a
backslash starts an escape; before a line break it joins the lines.
-/

namespace AmountPad.Yaml.Quoted

/-- Text up to white space or the closing quote. -/
structure Run where
  text : List Char
  cursor : Cursor
  /-- Whether the text ends with an escaped line break. -/
  joined : Bool
  deriving DecidableEq, Repr

/-- Text between single quotes up to white space or the closing quote. -/
def singleRun : List Char → List Char × Nat
  | [] => ([], 0)
  | '\'' :: '\'' :: rest =>
    let (text, count) := singleRun rest
    ('\'' :: text, count + 2)
  | c :: rest =>
    if isBlank c || isBreak c || c == '\'' then ([], 0)
    else
      let (text, count) := singleRun rest
      (c :: text, count + 1)

/-- The character of an escape of one letter. -/
def escaped? : Char → Option Char
  | '0' => some '\x00'
  | 'a' => some '\x07'
  | 'b' => some '\x08'
  | 't' => some '\t'
  | '\t' => some '\t'
  | 'n' => some '\n'
  | 'v' => some '\x0b'
  | 'f' => some '\x0c'
  | 'r' => some '\r'
  | 'e' => some '\x1b'
  | ' ' => some ' '
  | '"' => some '"'
  | '/' => some '/'
  | '\\' => some '\\'
  | 'N' => some '\u0085'
  | '_' => some '\u00a0'
  | 'L' => some '\u2028'
  | 'P' => some '\u2029'
  | _ => none

/-- How many hexadecimal digits follow the letter of an escape that gives a code point. -/
def codeLength? : Char → Option Nat
  | 'x' => some 2
  | 'u' => some 4
  | 'U' => some 8
  | _ => none

/-- The character with a code point, if there is one. -/
def charOfCode? (code : Nat) : Option Char :=
  if h : code.isValidChar then some (Char.ofNatAux code h) else none

/-- One escape, the cursor being in front of its backslash. -/
def scanEscape (start : Mark) (c : Cursor) : Except Fault (Char × Cursor) :=
  match c.rest.drop 1 with
  | [] => problemIn .unknownEscape c.mark .escape start
  | e :: rest =>
    match escaped? e, codeLength? e with
    | some x, _ => .ok (x, c.skip 2)
    | none, some count =>
      let digits := rest.take count
      match if digits.length = count then Text.hexNumber? digits else none with
      | none => problemIn .missingHexDigit (c.skip 2).mark .escape start
      | some code =>
        match charOfCode? code with
        | none => problemIn .badCodePoint (c.skip 2).mark .escape start
        | some x => .ok (x, c.skip (2 + count))
    | none, none => problemIn .unknownEscape c.mark .escape start

/-- Text between double quotes up to white space or the closing quote. The first argument bounds the
number of characters. -/
def doubleRun (start : Mark) : Nat → Cursor → Except Fault Run
  | 0, c => .ok ⟨[], c, false⟩
  | bound + 1, c =>
    match c.rest with
    | [] => .ok ⟨[], c, false⟩
    | x :: rest =>
      if isBlank x || isBreak x || x == '"' then .ok ⟨[], c, false⟩
      else if x == '\\' && rest != [] && atBreak rest then
        .ok ⟨[], (c.skip 1).skipBreak, true⟩
      else do
        let (y, c) ← if x == '\\' then scanEscape start c else .ok (x, c.skip 1)
        let more ← doubleRun start bound c
        return { more with text := y :: more.text }

/-- Text up to white space or the closing quote. -/
def scanRun (single : Bool) (start : Mark) (c : Cursor) : Except Fault Run :=
  if single then
    let (text, count) := singleRun c.rest
    .ok ⟨text, c.skip count, false⟩
  else doubleRun start c.rest.length c

/-- Reads the text up to the closing quote and stays in front of it. The first argument bounds the
number of runs. -/
def runs (single : Bool) (start : Mark) : Nat → Cursor → Except Fault (List Char × Cursor)
  | 0, c => problemIn .unclosedQuotes c.mark .quotedScalar start
  | bound + 1, c => do
    if c.atMarker '-' || c.atMarker '.' then
      problemIn .markerInQuotes c.mark .quotedScalar start
    if c.rest = [] then problemIn .unclosedQuotes c.mark .quotedScalar start
    let run ← scanRun single start c
    if run.cursor.rest.head? == some (if single then '\'' else '"') then
      return (run.text, run.cursor)
    match Gap.scan none run.cursor.rest.length { broken := run.joined } run.cursor with
    | (none, c) => problemIn .unclosedQuotes c.mark .quotedScalar start
    | (some gap, c) =>
      let (more, c) ← runs single start bound c
      return (run.text ++ gap.text ++ more, c)

/-- Reads a quoted scalar, the cursor being in front of its opening quote. -/
def scan (single : Bool) (c : Cursor) : Except Fault (List Char × Cursor) := do
  let (text, after) ← runs single c.mark (c.rest.length + 1) (c.skip 1)
  return (text, after.skip 1)

end AmountPad.Yaml.Quoted
