import AmountPad.Text.Hex
import AmountPad.Text.Property.Visible

/-!
# Texts spelled out

A text in double quotes in which every character can be seen: messages and log lines quote what
they were given in this form.

* `spellChar` — one character: a short escape, its code point in hexadecimal, or itself;
* `quote` — a whole text.
-/

namespace AmountPad.Text

/-- One character of a quoted text. -/
def spellChar (c : Char) : List Char :=
  match c with
  | '\x00' => ['\\', '0']
  | '\t' => ['\\', 't']
  | '\r' => ['\\', 'r']
  | '\n' => ['\\', 'n']
  | '\\' => ['\\', '\\']
  | '"' => ['\\', '"']
  | c =>
    if ' ' ≤ c ∧ c ≤ '~' then [c]
    else if Property.attaching.has c || Property.unprintable.has c then
      ['\\', 'u', '\x7b'] ++ hex c.toNat ++ ['\x7d']
    else [c]

/-- A text in double quotes with every character visible. -/
def quote (s : String) : String :=
  String.ofList ('"' :: (s.toList.flatMap spellChar ++ ['"']))

end AmountPad.Text
