import AmountPad.Text.Hex
import AmountPad.Yaml.Fault

/-!
# Names, tags and directives

The small tokens of a YAML text: anchors and aliases, tags with their handles and escaped octets,
and the two directives.

* `Tag` — what a tag says. Its escaped octets need not spell characters, and such a tag names
  nothing;
* `Tag.choice?` — the choice that a local tag names.
-/

namespace AmountPad.Yaml

/-! ## Anchors and aliases -/

/-- What may stand directly behind the name of an anchor. -/
def endsName (rest : List Char) : Bool :=
  atSpace rest ||
    match rest with
    | [] => true
    | c :: _ => "?:,]\x7d%@`".toList.contains c

/-- Reads the name of an anchor or an alias behind its mark. -/
def scanName (context : Context) (c : Cursor) : Except Fault (String × Cursor) := do
  let start := c.mark
  let c := c.skip 1
  let name := c.rest.takeWhile isWordChar
  let c := c.skip name.length
  if name = [] || !endsName c.rest then problemIn .missingName c.mark context start
  return (String.ofList name, c)

/-! ## Tags -/

/-- The text of a tag, or of a part of one. -/
structure Tag where
  text : String
  /-- Whether its escaped octets spell characters; those that do not stand in the text as U+FFFD. -/
  isText : Bool := true
  deriving DecidableEq, Repr

namespace Tag

/-- The tag that a lead and what follows it make. -/
def append (lead suffix : Tag) : Tag := ⟨lead.text ++ suffix.text, lead.isText && suffix.isText⟩

/-- The tag that was read as characters, `none` standing for octets that spell no character. A null
character ends it. -/
def ofSpelled (cs : List (Option Char)) : Tag :=
  let cs := cs.takeWhile (· != some '\x00')
  ⟨String.ofList (cs.map (·.getD '\ufffd')), cs.all Option.isSome⟩

/-- Whether a tag is a local one, which starts with the tag mark. -/
def isLocal (t : Tag) : Bool := t.text.toList.head? == some '!'

/-- The choice that a local tag names: what stands behind the mark, or the mark if it stands
alone. -/
def choice? (t : Tag) : Option String :=
  if t.isText then
    match t.text.toList with
    | ['!'] => some "!"
    | '!' :: rest => some (String.ofList rest)
    | _ => none
  else none

end Tag

/-- The characters of a tag; brackets and commas are part of it only where `wide` says so. -/
def isTagChar (wide : Bool) (c : Char) : Bool :=
  isWordChar c || ";/?:@&=+$.%!~*'()".toList.contains c || wide && ",[]".toList.contains c

/-- How many octets a character takes that starts with a given one. -/
def octetCount? (octet : Nat) : Option Nat :=
  if octet < 0x80 then some 1
  else if 0xC0 ≤ octet ∧ octet < 0xE0 then some 2
  else if 0xE0 ≤ octet ∧ octet < 0xF0 then some 3
  else if 0xF0 ≤ octet ∧ octet < 0xF8 then some 4
  else none

/-- Reads an escaped octet. -/
def scanOctet (start : Mark) (c : Cursor) : Except Fault (Nat × Cursor) :=
  match c.rest with
  | '%' :: a :: b :: _ =>
    match Text.hexNumber? [a, b] with
    | some octet => .ok (octet, c.skip 3)
    | none => problemIn .missingOctet c.mark .tagUri start
  | _ => problemIn .missingOctet c.mark .tagUri start

/-- Reads the octets of a character behind its first one and adds them to its code. -/
def scanNextOctets (start : Mark) : Nat → Nat → Cursor → Except Fault (Nat × Cursor)
  | 0, code, c => .ok (code, c)
  | count + 1, code, c => do
    let (octet, next) ← scanOctet start c
    if octet / 0x40 ≠ 2 then problemIn .badNextOctet c.mark .tagUri start
    scanNextOctets start count (code * 0x40 + octet % 0x40) next

/-- The character that a number of octets spells with a code. A character is spelled by as few
octets as it needs, so that some codes spell none. -/
def spelledChar? (count code : Nat) : Option Char :=
  if h : code.isValidChar then
    let c := Char.ofNatAux code h
    if c.utf8Size = count then some c else none
  else none

/-- Reads what is given by escaped octets. -/
def scanEscapedChar (start : Mark) (c : Cursor) : Except Fault (Option Char × Cursor) := do
  let (octet, next) ← scanOctet start c
  match octetCount? octet with
  | none => problemIn .badFirstOctet c.mark .tagUri start
  | some 1 => return (spelledChar? 1 octet, next)
  | some count =>
    let (code, next) ← scanNextOctets start (count - 1) (octet % Nat.pow 2 (7 - count)) next
    return (spelledChar? count code, next)

/-- Reads the characters of a tag. The first argument bounds their number. -/
def scanUriChars (wide : Bool) (start : Mark) :
    Nat → Cursor → Except Fault (List (Option Char) × Cursor)
  | 0, c => .ok ([], c)
  | bound + 1, c =>
    match c.rest with
    | [] => .ok ([], c)
    | x :: _ =>
      if isTagChar wide x then do
        let (y, c) ← if x = '%' then scanEscapedChar start c else .ok (some x, c.skip 1)
        let (more, c) ← scanUriChars wide start bound c
        return (y :: more, c)
      else .ok ([], c)

/-- Reads the characters of a tag, of which there must be one unless some are known already. -/
def scanUri (wide known : Bool) (start : Mark) (c : Cursor) :
    Except Fault (List (Option Char) × Cursor) := do
  let (uri, c) ← scanUriChars wide start c.rest.length c
  if uri = [] && !known then problemIn .missingUri c.mark .tagUri start
  return (uri, c)

/-- Reads a handle: a mark, and a name that a second mark may close. -/
def scanHandle (c : Cursor) : List Char × Cursor :=
  let name := (c.rest.drop 1).takeWhile isWordChar
  let c := c.skip (1 + name.length)
  match c.rest with
  | '!' :: _ => ('!' :: (name ++ ['!']), c.skip 1)
  | _ => ('!' :: name, c)

/-- Whether a handle is closed by a second mark. -/
def isClosedHandle (handle : List Char) : Bool :=
  decide (1 < handle.length) && handle.getLast? == some '!'

/-- A tag's handle and suffix. A tag in angle brackets has the empty handle, and so has the mark
alone. -/
def scanTagParts (start : Mark) (c : Cursor) : Except Fault (List Char × Tag × Cursor) :=
  match c.rest.drop 1 with
  | '<' :: _ => do
    let (uri, c) ← scanUri true false start (c.skip 2)
    match c.rest with
    | '>' :: _ => return ([], .ofSpelled uri, c.skip 1)
    | _ => problemIn .unclosedTag c.mark .tag start
  | _ => do
    let (handle, c) := scanHandle c
    if isClosedHandle handle then
      let (uri, c) ← scanUri false false start c
      return (handle, .ofSpelled uri, c)
    else
      let (uri, c) ← scanUri false true start c
      let suffix := Tag.ofSpelled ((handle.drop 1).map some ++ uri)
      if suffix.text = "" then return ([], { text := "!" }, c) else return (['!'], suffix, c)

/-- Reads a tag. -/
def scanTag (inFlow : Bool) (c : Cursor) : Except Fault (String × Tag × Cursor) := do
  let start := c.mark
  let (handle, suffix, c) ← scanTagParts start c
  if !(inFlow && c.rest.head? == some ',') && !atSpace c.rest then
    problemIn .missingSpace c.mark .tag start
  return (String.ofList handle, suffix, c)

/-! ## Directives -/

/-- What a directive says. -/
inductive Directive where
  | version (major minor : Nat)
  | tag (handle : String) (lead : Tag)
  deriving DecidableEq, Repr

/-- Reads a number of at most nine digits. -/
def scanVersionNumber (start : Mark) (c : Cursor) : Except Fault (Nat × Cursor) := do
  let digits := c.rest.takeWhile Char.isDigit
  if 9 < digits.length then problemIn .longVersion (c.skip 9).mark .versionDirective start
  if digits = [] then problemIn .missingVersion c.mark .versionDirective start
  return (digits.foldl (fun n d => n * 10 + (d.toNat - '0'.toNat)) 0, c.skip digits.length)

/-- Reads the version that a directive gives. -/
def scanVersion (start : Mark) (c : Cursor) : Except Fault (Directive × Cursor) := do
  let (major, c) ← scanVersionNumber start (c.skipWhile isBlank)
  if c.rest.head? != some '.' then
    problemIn .missingVersionDot c.mark .versionDirective start
  let (minor, c) ← scanVersionNumber start (c.skip 1)
  return (.version major minor, c)

/-- Reads the handle that a directive defines and what it stands for. -/
def scanTagDirective (start : Mark) (c : Cursor) : Except Fault (Directive × Cursor) := do
  let c := c.skipWhile isBlank
  if c.rest.head? != some '!' then problemIn .missingTagMark c.mark .directive start
  let (handle, c) := scanHandle c
  if !isClosedHandle handle && handle != ['!'] then
    problemIn .missingTagMark c.mark .directive start
  if !(match c.rest with | x :: _ => isBlank x | [] => false) then
    problemIn .missingBlank c.mark .tagDirective start
  let (lead, c) ← scanUri true false start (c.skipWhile isBlank)
  if !atSpace c.rest then problemIn .missingSpace c.mark .tagDirective start
  return (.tag (String.ofList handle) (.ofSpelled lead), c)

/-- Reads a directive and the rest of its line. -/
def scanDirective (c : Cursor) : Except Fault (Directive × Mark × Cursor) := do
  let start := c.mark
  let c := c.skip 1
  let name := c.rest.takeWhile isWordChar
  let c := c.skip name.length
  if name = [] then problemIn .missingDirectiveName c.mark .directive start
  if !atSpace c.rest then problemIn .directiveNameBroken c.mark .directive start
  let (directive, c) ←
    if name = "YAML".toList then scanVersion start c
    else if name = "TAG".toList then scanTagDirective start c
    else problemIn .unknownDirective c.mark .directive start
  let stop := c.mark
  let c := c.skipLineTail
  if !atBreak c.rest then problemIn .unfinishedLine c.mark .directive start
  return (directive, stop, c.skipBreak)

end AmountPad.Yaml
