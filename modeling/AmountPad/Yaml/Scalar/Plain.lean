import AmountPad.Yaml.Scalar.Gap

/-!
# Plain scalars

A scalar without quotes ends at a comment, at a colon with white space behind it, inside brackets
also at a bracket or a comma, and where a line is indented less than its context asks.
-/

namespace AmountPad.Yaml.Plain

/-- Brackets and the comma, which end a plain scalar inside brackets. -/
def isFlowMark (c : Char) : Bool :=
  c == ',' || c == '[' || c == ']' || c == '{' || c == '}'

/-- A colon directly before one of these is refused inside brackets. -/
def isAmbiguous (rest : List Char) : Bool :=
  match rest with
  | [] => false
  | c :: _ => isFlowMark c || c == '?'

/-- The text up to white space or to the end of the scalar, and whether it runs into a colon that
is refused. -/
def run (inFlow : Bool) : List Char → List Char × Bool
  | [] => ([], false)
  | c :: rest =>
    if isBlank c || isBreak c then ([], false)
    else if inFlow && c == ':' && isAmbiguous rest then ([], true)
    else if c == ':' && atSpace rest || inFlow && isFlowMark c then ([], false)
    else
      let (text, refused) := run inFlow rest
      (c :: text, refused)

/-- What a scan of a plain scalar yields. -/
structure Scan where
  text : List Char
  /-- The place behind the last character of the text. -/
  stop : Mark
  cursor : Cursor
  /-- Whether the scan passed a line break behind the text. -/
  brokeLine : Bool
  deriving DecidableEq, Repr

/-- Whether a scalar is over before another run of text. -/
def isOver (c : Cursor) : Bool :=
  c.atMarker '-' || c.atMarker '.' || c.rest.head? == some '#'

/-- Reads runs of text and the white space between them. Inside blocks, text has to stand at least
at column `least`. The first argument bounds the number of runs. -/
def runs (inFlow : Bool) (least : Nat) (start : Mark) :
    Nat → Gap → Mark → Cursor → Except Fault Scan
  | 0, gap, stop, c => .ok ⟨[], stop, c, gap.broken⟩
  | bound + 1, gap, stop, c => do
    if isOver c then return ⟨[], stop, c, gap.broken⟩
    let (text, refused) := run inFlow c.rest
    let lead := if text = [] then [] else gap.text
    let gap := if text = [] then gap else {}
    let c := c.skip text.length
    let stop := if text = [] then stop else c.mark
    if refused then problemIn .colonInFlow c.mark .plainScalar start
    if c.rest = [] || !atSpace c.rest then return ⟨lead ++ text, stop, c, gap.broken⟩
    match Gap.scan (some least) c.rest.length gap c with
    | (none, c) => problemIn .tabInPlain c.mark .plainScalar start
    | (some gap, c) =>
      if !inFlow && decide (c.mark.column < least) then
        return ⟨lead ++ text, stop, c, gap.broken⟩
      let more ← runs inFlow least start bound gap stop c
      return { more with text := lead ++ text ++ more.text }

/-- Reads a plain scalar inside a block that is indented by `indent`. -/
def scan (inFlow : Bool) (indent : Int) (c : Cursor) : Except Fault Scan :=
  runs inFlow (indent + 1).toNat c.mark c.rest.length {} c.mark c

end AmountPad.Yaml.Plain
