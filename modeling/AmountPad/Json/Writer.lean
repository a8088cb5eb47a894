import AmountPad.Text.Visible

/-!
# JSON texts

* `Node` — what is written: strings, lists and objects;
* `quoted` — a string between quotes; quotes, backslashes and control characters are escaped and
  every other character stands for itself;
* `Node.compact` — without white space;
* `Node.pretty` — one item or member a line, each level indented by two blanks.
-/

namespace AmountPad.Json

inductive Node where
  | text (s : String)
  | list (items : List Node)
  | object (members : List (String × Node))

/-- One character between quotes. -/
def escapeChar (c : Char) : List Char :=
  match c with
  | '"' => ['\\', '"']
  | '\\' => ['\\', '\\']
  | '\x08' => ['\\', 'b']
  | '\x0c' => ['\\', 'f']
  | '\n' => ['\\', 'n']
  | '\r' => ['\\', 'r']
  | '\t' => ['\\', 't']
  | c =>
    if c < ' ' then
      ['\\', 'u', '0', '0', Nat.digitChar (c.toNat / 16), Nat.digitChar (c.toNat % 16)]
    else [c]

/-- A string between quotes. -/
def quoted (s : String) : List Char := '"' :: (s.toList.flatMap escapeChar ++ ['"'])

namespace Node

mutual

/-- A value without white space. -/
def compact : Node → List Char
  | .text s => quoted s
  | .list items => '[' :: (compactItems true items ++ [']'])
  | .object members => '{' :: (compactMembers true members ++ ['}'])

def compactItems : Bool → List Node → List Char
  | _, [] => []
  | first, n :: rest => (if first then [] else [',']) ++ n.compact ++ compactItems false rest

def compactMembers : Bool → List (String × Node) → List Char
  | _, [] => []
  | first, (name, n) :: rest =>
    (if first then [] else [',']) ++ quoted name ++ ':' :: n.compact ++ compactMembers false rest

end

/-- The start of a line at a level of nesting. -/
def newLine (level : Nat) : List Char := '\n' :: List.replicate (2 * level) ' '

mutual

/-- A value inside `level` lists and objects, over several lines unless it is empty. -/
def pretty (level : Nat) : Node → List Char
  | .text s => quoted s
  | .list [] => ['[', ']']
  | .list (n :: rest) =>
    '[' :: (newLine (level + 1) ++ n.pretty (level + 1) ++ prettyItems (level + 1) rest ++
      newLine level ++ [']'])
  | .object [] => ['{', '}']
  | .object ((name, n) :: rest) =>
    '{' :: (newLine (level + 1) ++ quoted name ++ [':', ' '] ++ n.pretty (level + 1) ++
      prettyMembers (level + 1) rest ++ newLine level ++ ['}'])

def prettyItems (level : Nat) : List Node → List Char
  | [] => []
  | n :: rest => ',' :: (newLine level ++ n.pretty level ++ prettyItems level rest)

def prettyMembers (level : Nat) : List (String × Node) → List Char
  | [] => []
  | (name, n) :: rest =>
    ',' :: (newLine level ++ quoted name ++ [':', ' '] ++ n.pretty level ++
      prettyMembers level rest)

end

end Node

end AmountPad.Json
