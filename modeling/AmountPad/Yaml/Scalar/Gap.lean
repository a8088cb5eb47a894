import AmountPad.Yaml.Fault

/-!
# White space inside scalars

Within a plain or quoted scalar, blanks on one line stand for themselves, while line breaks fold: a
single break becomes a blank, and of several breaks the first one is dropped.
-/

namespace AmountPad.Yaml

/-- White space met between two runs of a scalar's text. -/
structure Gap where
  /-- Blanks before the first break; they count only if there is none. -/
  blanks : List Char := []
  firstBreak : List Char := []
  moreBreaks : List Char := []
  /-- Whether a break was met. -/
  broken : Bool := false
  deriving DecidableEq, Repr

namespace Gap

/-- What the white space contributes to the scalar. -/
def text (g : Gap) : List Char :=
  if g.broken then
    if g.firstBreak = ['\n'] then if g.moreBreaks = [] then [' '] else g.moreBreaks
    else g.firstBreak ++ g.moreBreaks
  else g.blanks

/-- Whether a character is a tab where indentation is still due. -/
def isBadTab (tabColumn : Option Nat) (g : Gap) (column : Nat) (x : Char) : Bool :=
  match tabColumn with
  | none => false
  | some least => g.broken && decide (column < least) && x == '\t'

/-- Takes blanks and breaks from the front of a text. Where `tabColumn` is given, no tab may stand
left of that column behind a break; such a tab ends the gap as `none`. The first argument bounds the
number of characters. -/
def scan (tabColumn : Option Nat) : Nat → Gap → Cursor → Option Gap × Cursor
  | 0, g, c => (some g, c)
  | bound + 1, g, c =>
    match c.rest with
    | [] => (some g, c)
    | x :: _ =>
      if isBlank x then
        if isBadTab tabColumn g c.mark.column x then (none, c)
        else
          scan tabColumn bound (if g.broken then g else { g with blanks := g.blanks ++ [x] })
            (c.skip 1)
      else if isBreak x then
        scan tabColumn bound
          (if g.broken then { g with moreBreaks := g.moreBreaks ++ c.breakText }
            else { g with blanks := [], firstBreak := c.breakText, broken := true })
          c.skipBreak
      else (some g, c)

end Gap

end AmountPad.Yaml
