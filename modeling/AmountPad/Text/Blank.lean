import AmountPad.Text.CharSet

/-!
# Blanks

The characters that are white space, in any script, and texts without the blanks at their ends.

* `isBlank` — whether a character is white space;
* `dropBlanks`, `trimEnd` — a text without the blanks in front of it, or behind it.
-/

namespace AmountPad.Text

/-- White space. -/
def blanks : CharSet := ⟨[
  0x9, 0xE, 0x20, 0x21, 0x85, 0x86, 0xA0, 0xA1, 0x1680, 0x1681, 0x2000, 0x200B, 0x2028, 0x202A,
  0x202F, 0x2030, 0x205F, 0x2060, 0x3000, 0x3001]⟩

def isBlank (c : Char) : Bool := blanks.has c

/-- Every white space of ASCII is a blank. -/
theorem isBlank_of_isWhitespace {c : Char} (h : c.isWhitespace) : isBlank c := by
  simp only [Char.isWhitespace, Bool.or_eq_true, decide_eq_true_eq] at h
  rcases h with ((rfl | rfl) | rfl) | rfl <;> decide

/-- A text without the blanks in front. -/
def dropBlanks (s : List Char) : List Char := s.dropWhile isBlank

/-- A text without the blanks at its end. -/
def dropBlanksEnd (s : List Char) : List Char := (dropBlanks s.reverse).reverse

/-- A text without the blanks at its end. -/
def trimEnd (s : String) : String := String.ofList (dropBlanksEnd s.toList)

end AmountPad.Text
