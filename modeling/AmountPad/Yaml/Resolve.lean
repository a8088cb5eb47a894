import AmountPad.Decimal.Shortest
import AmountPad.Text.Hex
import AmountPad.Yaml.Event

/-!
# What a plain scalar stands for

A plain scalar without a tag may spell null, a boolean, an integer or a real; any other text is a
string. Configurations want strings everywhere, so that the kind matters in two places only: where a
scalar is refused, the message names its kind, and where a string is written, one that would be
taken for another kind is quoted.

* `Found.ofPlain` — the kind of a plain scalar;
* `Found.ofScalar` — the same for any scalar, tags considered.
-/

namespace AmountPad.Yaml

/-- The texts that spell null. -/
def isNull (s : String) : Bool := ["null", "Null", "NULL", "~"].contains s

/-- The texts that spell a boolean. -/
def bool? (s : String) : Option Bool :=
  if ["true", "True", "TRUE"].contains s then some true
  else if ["false", "False", "FALSE"].contains s then some false
  else none

/-- The text behind a plus sign, if it has one. -/
def dropPlus : List Char → List Char
  | '+' :: rest => rest
  | cs => cs

/-- Whether a text starts with a sign. -/
def startsSigned : List Char → Bool
  | c :: _ => c == '+' || c == '-'
  | [] => false

/-- Digits behind a leading zero, which make no number. -/
def isZeroPadded (cs : List Char) : Bool :=
  let digits := if startsSigned cs then cs.drop 1 else cs
  match digits with
  | '0' :: rest => rest != [] && rest.all Char.isDigit
  | _ => false

/-- The number that digits of a base spell. -/
def digits? (base : Nat) (cs : List Char) : Option Nat :=
  if cs = [] then none
  else cs.foldlM (fun n c =>
    match Text.hexValue? c with
    | some d => if d < base then some (n * base + d) else none
    | none => none) 0

/-- The bases that a mark behind a zero announces. -/
def bases : List (List Char × Nat) := [(['0', 'x'], 16), (['0', 'o'], 8), (['0', 'b'], 2)]

/-- The digits behind a base mark, and the base. -/
def based (cs : List Char) : Option (Nat × List Char) :=
  bases.findSome? fun (mark, base) =>
    if mark.isPrefixOf cs then some (base, cs.drop 2) else none

/-- The natural number below a bound that a text spells. -/
def natural? (bound : Nat) (cs : List Char) : Option Nat :=
  let body := dropPlus cs
  let below (n : Nat) : Option Nat := if n < bound then some n else none
  match based body with
  | some (base, digits) =>
    if startsSigned digits then none
    else (digits? base digits).bind below
  | none =>
    if startsSigned body || isZeroPadded cs then none
    else (digits? 10 body).bind below

/-- The magnitude, at most a bound, of the negative integer that a text spells. -/
def negative? (bound : Nat) (cs : List Char) : Option Nat :=
  let upTo (n : Nat) : Option Nat := if n ≤ bound then some n else none
  match cs with
  | '-' :: rest =>
    match based rest with
    | some (base, digits) => (digits? base digits).bind upTo
    | none => if isZeroPadded cs then none else (digits? 10 rest).bind upTo
  | _ => none

/-- A decimal number: its digits, and the power of ten that scales them. -/
structure Decimal where
  negative : Bool
  digits : List Char
  scale : Int
  deriving DecidableEq, Repr

/-- The exponent at the end of a decimal number. -/
def exponent? : List Char → Option Int
  | [] => some 0
  | c :: rest =>
    if c = 'e' ∨ c = 'E' then
      match rest with
      | '-' :: digits => (digits? 10 digits).map fun n => -(n : Int)
      | digits => (digits? 10 (dropPlus digits)).map Int.ofNat
    else none

/-- Reads a decimal number: digits around a point, of which there must be one, and an exponent. -/
def decimal? (cs : List Char) : Option Decimal :=
  let negative := cs.head? == some '-'
  let body := if negative then cs.drop 1 else dropPlus cs
  let whole := body.takeWhile Char.isDigit
  let rest := body.dropWhile Char.isDigit
  let (fraction, rest) := match rest with
    | '.' :: rest => (rest.takeWhile Char.isDigit, rest.dropWhile Char.isDigit)
    | _ => ([], rest)
  if whole = [] ∧ fraction = [] then none
  else (exponent? rest).map fun e => ⟨negative, whole ++ fraction, e - (fraction.length : Int)⟩

namespace Decimal

/-- The digits as a number. -/
def significand (d : Decimal) : Nat :=
  d.digits.foldl (fun n c => n * 10 + (c.toNat - '0'.toNat)) 0

/-- The power of ten below which the number lies. -/
def magnitude (d : Decimal) : Int := (toString d.significand).length + d.scale

/-- Whether the number rounds to a finite float of 64 bits. -/
def isFinite (d : Decimal) : Bool :=
  d.significand == 0 || d.magnitude < 309 ||
    d.magnitude == 309 &&
      decide (d.significand * Nat.pow 10 d.scale.toNat
        < (Nat.pow 2 1024 - Nat.pow 2 970) * Nat.pow 10 (-d.scale).toNat)

/-- The float nearest to the number. -/
def toFloat (d : Decimal) : Float :=
  let x :=
    if d.significand = 0 ∨ d.magnitude < -400 then 0.0
    else Float.ofScientific d.significand (d.scale < 0) d.scale.natAbs
  if d.negative then -x else x

end Decimal

/-- Reals are written positionally, whatever their size. -/
def realSpelling : Decimal.Spelling := ⟨none, none, .away⟩

/-- The text of the real that a text spells. -/
def real? (s : String) : Option String :=
  let cs := s.toList
  let body := dropPlus cs
  if cs.head? == some '+' && startsSigned body then none
  else if [".inf", ".Inf", ".INF"].contains (String.ofList body) then some "inf"
  else if ["-.inf", "-.Inf", "-.INF"].contains s then some "-inf"
  else if [".nan", ".NaN", ".NAN"].contains s then some "NaN"
  else
    match decimal? body with
    | some d =>
      if d.isFinite then some (AmountPad.Decimal.renderFloat realSpelling d.toFloat) else none
    | none => none

/-- The text of the integer that a text spells, and its kind. Integers beyond 64 bits are named by
the width that holds them. -/
def integer? (s : String) : Option Found :=
  let cs := s.toList
  let minus (n : Nat) : String := if n = 0 then "0" else "-" ++ toString n
  match natural? (Nat.pow 2 64) cs, negative? (Nat.pow 2 63) cs with
  | some n, _ => some (.integer (toString n))
  | none, some n => some (.integer (minus n))
  | none, none =>
    match natural? (Nat.pow 2 128) cs, negative? (Nat.pow 2 127) cs with
    | some n, _ => some (.longInteger (toString n) false)
    | none, some n => some (.longInteger (minus n) true)
    | none, none => none

/-- What a plain scalar without a tag stands for. -/
def Found.ofPlain (s : String) : Found :=
  if s = "" || isNull s then .null
  else
    match bool? s, integer? s with
    | some b, _ => .bool b
    | none, some found => found
    | none, none =>
      if isZeroPadded s.toList then .text s
      else
        match real? s with
        | some digits => .real digits
        | none => .text s

/-- The tags of the basic kinds. -/
def kindTag (name : String) : Tag := { text := "tag:yaml.org,2002:" ++ name }

/-- What a scalar stands for, or why its tag does not fit its text. -/
def Found.ofScalar (tag : Option Tag) (text : String) (style : Style) : Except Misfit Found :=
  let untagged := if style = .plain then Found.ofPlain text else .text text
  match tag with
  | none => .ok untagged
  | some tag =>
    let fit (found : Option Found) (expected : String) : Except Misfit Found :=
      match found with
      | some found => .ok found
      | none => .error (.wrongValue text expected)
    if tag = kindTag "bool" then fit ((bool? text).map .bool) "a boolean"
    else if tag = kindTag "int" then fit (integer? text) "an integer"
    else if tag = kindTag "float" then fit ((real? text).map .real) "a float"
    else if tag = kindTag "null" then fit (if isNull text then some .null else none) "null"
    else if tag.isLocal then .ok untagged
    else .ok (.text text)

end AmountPad.Yaml
