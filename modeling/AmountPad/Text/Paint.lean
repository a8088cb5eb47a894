/-!
# Painted text

Text with the control sequences by which a terminal shows it in a colour or in another weight. A
painted text ends with the sequence that takes everything back.

* `Paint` — the colours and weights;
* `paint` — a text in some of them.
-/

namespace AmountPad.Text

inductive Paint where
  | bold
  | dim
  | italic
  | red
  | green
  | yellow
  | blue
  | cyan
  deriving DecidableEq, Repr

/-- The number of a colour or weight in a control sequence. -/
def Paint.number : Paint → Nat
  | .bold => 1
  | .dim => 2
  | .italic => 3
  | .red => 31
  | .green => 32
  | .yellow => 33
  | .blue => 34
  | .cyan => 36

/-- The control sequence of a number; zero takes everything back. -/
def paintSequence (number : Nat) : String := "\x1b[" ++ toString number ++ "m"

/-- A text in colours and weights. -/
def paint (paints : List Paint) (s : String) : String :=
  String.join (paints.map fun p => paintSequence p.number) ++ s ++ paintSequence 0

/-- A text that is painted only where that is wanted. -/
def paintIf (wanted : Bool) (paints : List Paint) (s : String) : String :=
  if wanted then paint paints s else s

end AmountPad.Text
