import AmountPad.Text.Cluster
import AmountPad.Text.Property.Emoji
import AmountPad.Text.Property.Width

/-!
# Columns

The number of terminal columns that a text takes. Most characters take one column; wide ones and
pictures take two; marks that attach to others take none. A picture that is put together from
several characters takes two columns in all, and a consonant that is written below another takes
none, so that a character's share depends on what follows it.

* `charColumns` — a character on its own;
* `columns` — a text, read from its end.
-/

namespace AmountPad.Text

/-- A vowel that is written as two letters. -/
def doubleVowel : Char := '\u17a4'

/-- A sign that is written as three letters. -/
def tripleSign : Char := '\u17d8'

/-- The columns of a character on its own. -/
def charColumns (c : Char) : Nat :=
  if c ≤ '\u00a0' then 1
  else if Property.columnless.has c then 0
  else if Property.wide.has c || c == doubleVowel then 2
  else if c = tripleSign then 3
  else 1

/-- The letters that are written below a letter in front of them when `stacker` stands between. -/
def stackable : CharSet := ⟨[
  0x1780, 0x1783, 0x1784, 0x1788, 0x1789, 0x178D, 0x178E, 0x1794, 0x1795, 0x1799, 0x179B, 0x179E,
  0x17A0, 0x17A1, 0x17A2, 0x17A3, 0x17A7, 0x17A8, 0x17AB, 0x17AD, 0x17AF, 0x17B0]⟩

/-- The mark that puts a letter below the one before. -/
def stacker : Char := '\u17d2'

/-- Marks without an appearance, which may stand between the two. -/
def unseen : CharSet := ⟨[
  0x34F, 0x350, 0x17B4, 0x17B6, 0x180B, 0x180E, 0x180F, 0x1810, 0x200D, 0x200E, 0xFE00, 0xFE10,
  0xE0100, 0xE01F0]⟩

/-- A flag of a region starts as this picture, which tags follow that spell its code. -/
def blackFlag : Char := Char.ofNat 0x1F3F4

/-- The letters among the tags. -/
def isTagLetter (c : Char) : Bool := within 0xE0061 0xE007A c.toNat

/-- The digits among the tags. -/
def isTagDigit (c : Char) : Bool := within 0xE0030 0xE0039 c.toNat

/-- The tag behind the others. -/
def lastTag : Char := Char.ofNat 0xE007F

/-- What follows a character, as far as its columns depend on it. -/
inductive Ahead where
  | none
  | lineFeed
  /-- A picture. -/
  | picture
  /-- A modifier of a picture's skin tone. -/
  | tone
  /-- A joiner with a picture behind it. -/
  | joiner
  /-- The frame of a key, and behind it a joiner with a picture. -/
  | frame
  /-- Tags, the letters first, and behind them a joiner with a picture. -/
  | letterTags (count : Nat)
  /-- Tags, the digits first, and behind them a joiner with a picture. -/
  | digitTags (count : Nat)
  /-- A selector that asks for a picture; the flag tells whether a picture is joined to it. -/
  | asPicture (joined : Bool)
  /-- A selector that asks for text. -/
  | asText
  /-- A letter that may be written below another. -/
  | stackable
  deriving DecidableEq, Repr

/-- What a character on its own is to the one before it. -/
def Ahead.of (c : Char) : Ahead :=
  if c = '\n' then .lineFeed
  else if c = '\ufe0f' then .asPicture false
  else if c = '\ufe0e' then .asText
  else if isToneModifier c then .tone
  else if Property.pictured.has c then .picture
  else if Text.stackable.has c then .stackable
  else .none

/-- Whether a selector that asks for text has an effect on a character. Ideographs in boxes keep
their size. -/
def obeysText (c : Char) : Bool :=
  Property.selectable.has c && Property.pictured.has c && !within 0x1F200 0x1F2FF c.toNat

/-- What follows a character once a selector that has no effect on it has been passed over. -/
def Ahead.settle (a : Ahead) (c : Char) : Ahead :=
  match a with
  | .asPicture _ => if Property.selectable.has c then a else .none
  | .asText => if obeysText c then a else .none
  | a => a

/-- What a character makes of a picture that is joined to it, if it may stand between the two. -/
def joinedAhead? (c : Char) : Option Ahead :=
  if c = '\ufe0f' then some (.asPicture true)
  else if c = '\u20e3' then some .frame
  else if isToneModifier c then some .tone
  else if c = lastTag then some (.letterTags 0)
  else if Property.pictured.has c then some .picture
  else none

/-- The columns that a character adds to what follows it, and what it is to the character before. A
letter that is written below another takes back the column that it added. -/
def share (c : Char) (ahead : Ahead) : Int × Ahead :=
  let own := ((charColumns c : Int), Ahead.of c)
  match ahead.settle c with
  | .asPicture joined => (if joined then 0 else 2, .picture)
  | .asText => (1, .none)
  | .lineFeed => if c = '\r' then (0, .none) else own
  | .tone =>
    if Property.toneable.has c then (0, .picture) else if c = '\u200d' then (0, .joiner) else own
  | .picture => if c = '\u200d' then (0, .joiner) else own
  | .joiner =>
    match joinedAhead? c with
    | some ahead => (0, ahead)
    | none => own
  | .frame => if c = '\ufe0f' then (0, .asPicture true) else own
  | .letterTags count =>
    if isTagLetter c && count < 6 then (0, .letterTags (count + 1))
    else if isTagDigit c && count < 5 then (0, .digitTags 1)
    else if c = blackFlag ∧ 3 ≤ count then (0, .picture)
    else own
  | .digitTags count =>
    if isTagDigit c && count < 3 then (0, .digitTags (count + 1))
    else if c = blackFlag ∧ count = 3 then (0, .picture)
    else own
  | .stackable =>
    if c = stacker then (-1, .none)
    else if unseen.has c then (0, .stackable)
    else own
  | .none => own

/-- The columns of a text, and what its first character is to one before it. -/
def columnsAhead (cs : List Char) : Int × Ahead :=
  cs.foldr (fun c (sum, ahead) =>
    let (own, ahead) := share c ahead
    (own + sum, ahead)) (0, .none)

/-- The columns of a text. -/
def columns (cs : List Char) : Nat := (columnsAhead cs).1.toNat

end AmountPad.Text
