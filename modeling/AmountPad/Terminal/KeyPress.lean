/-!
# Key presses

What a key press on a terminal asks for. Releases ask for nothing; with the control modifier only a
few letters have a meaning, and other modifiers do not matter.
-/

namespace AmountPad.Terminal

inductive KeyCode where
  | char (c : Char)
  | backspace
  | escape
  | delete
  /-- Any key that has no meaning to a pad. -/
  | other
  deriving DecidableEq, Repr

inductive KeyKind where
  | press
  | hold
  | release
  deriving DecidableEq, Repr

structure KeyPress where
  code : KeyCode
  control : Bool := false
  kind : KeyKind := .press
  deriving DecidableEq, Repr

/-- The key press that a terminal sends as a character: the first characters stand for letters
together with the control modifier. -/
def KeyPress.ofChar (c : Char) : KeyPress :=
  if c = '\x1b' then ⟨.escape, false, .press⟩
  else if c = '\x7f' ∨ c = '\x08' then ⟨.backspace, false, .press⟩
  else if c.toNat < 0x20 then ⟨.char (Char.ofNat (c.toNat + 0x60)), true, .press⟩
  else ⟨.char c, false, .press⟩

/-- What a user asks for at the keyboard. -/
inductive Command where
  /-- A typed character, which stands for the key with that label. -/
  | insert (c : Char)
  | backspace
  | clear
  | quit
  deriving DecidableEq, Repr

/-- What a letter asks for together with the control modifier. -/
def Command.ofControlLetter? : Char → Option Command
  | 'c' => some .quit
  | 'q' => some .quit
  | 'u' => some .clear
  | _ => none

/-- What a key press asks for. -/
def KeyPress.command? (k : KeyPress) : Option Command :=
  if k.kind = .release then none
  else match k.code, k.control with
    | .char c, true => Command.ofControlLetter? c
    | _, true => none
    | .char c, false => some (.insert c)
    | .backspace, false => some .backspace
    | .escape, false => some .clear
    | .delete, false => some .clear
    | .other, false => none

end AmountPad.Terminal
