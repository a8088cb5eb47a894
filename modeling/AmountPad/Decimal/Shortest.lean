/-!
# Shortest decimals

The decimal numeral with the fewest digits that still reads back to a given binary number.

* `Binary` — a finite binary number `m · 2^q`, taken from the bits of a `Float`;
* `Binary.holds` — which decimals round to it: those in the interval that reaches half way to its
  neighbours, ends included exactly when `m` is even;
* `Binary.shortest` — the first grid of decimals with a member in that interval, and on it the
  member nearest to the number; of two that are equally near, a `Tie` says which;
* `Spelling` and `Numeral.render` — how the digits are laid out.
-/

namespace AmountPad.Decimal

/-- The number `digits · 10^exponent`. -/
structure Numeral where
  digits : Nat
  exponent : Int
  deriving DecidableEq, Repr

/-- Which of two decimals is taken that are equally near to a number. -/
inductive Tie where
  /-- The one whose last digit is even. -/
  | even
  /-- The one that is farther from zero. -/
  | away
  deriving DecidableEq, Repr

/-- The number `m · 2^q`; `narrowBelow` says that the gap below is half the gap above. -/
structure Binary where
  m : Nat
  q : Int
  narrowBelow : Bool
  deriving DecidableEq, Repr

namespace Binary

/-- The magnitude of the finite number with these bits. -/
def ofBits (bits : UInt64) : Binary :=
  let e := ((bits >>> 52) &&& 0x7FF).toNat
  let f := (bits &&& 0xFFFFFFFFFFFFF).toNat
  if e = 0 then ⟨f, -1074, false⟩ else ⟨Nat.pow 2 52 + f, (e : Int) - 1075, f == 0 && 1 < e⟩

/-- Compares `a · 10^i` with `n · 2^j` exactly. -/
def compareScaled (a : Nat) (i : Int) (n : Nat) (j : Int) : Ordering :=
  compare (a * Nat.pow 10 i.toNat * Nat.pow 2 (-j).toNat)
    (n * Nat.pow 2 j.toNat * Nat.pow 10 (-i).toNat)

/-- Whether a decimal rounds to the number. -/
def holds (x : Binary) (d : Numeral) : Bool :=
  let low := if x.narrowBelow then 4 * x.m - 1 else 4 * x.m - 2
  let high := 4 * x.m + 2
  let closed := x.m % 2 == 0
  let atLow := compareScaled d.digits d.exponent low (x.q - 2)
  let atHigh := compareScaled d.digits d.exponent high (x.q - 2)
  (atLow == .gt || closed && atLow == .eq) && (atHigh == .lt || closed && atHigh == .eq)

/-- The whole part of the number in units of `10^k`. -/
def floorAt (x : Binary) (k : Int) : Nat :=
  x.m * Nat.pow 2 x.q.toNat * Nat.pow 10 (-k).toNat /
    (Nat.pow 2 (-x.q).toNat * Nat.pow 10 k.toNat)

/-- The number of decimal digits before the point; not positive for a number below one tenth. -/
def scale (x : Binary) : Int :=
  let rec climb (k : Int) : Nat → Int
    | 0 => k
    | fuel + 1 => if x.floorAt k = 0 then k else climb (k + 1) fuel
  climb (-330) 700

/-- The member of the grid `10^k` that reads back, the nearer one if both neighbours do. -/
def onGrid? (x : Binary) (tie : Tie) (k : Int) : Option Numeral :=
  let below := x.floorAt k
  let down : Numeral := ⟨below, k⟩
  let up : Numeral := ⟨below + 1, k⟩
  match decide (0 < below) && x.holds down, x.holds up with
  | true, true =>
    match compareScaled (2 * below + 1) k (2 * x.m) x.q with
    | .gt => some down
    | .lt => some up
    | .eq => some (if tie = .even ∧ below % 2 = 0 then down else up)
  | true, false => some down
  | false, true => some up
  | false, false => none

/-- Moves trailing zeros of the digits into the exponent. -/
def strip : Nat → Numeral → Numeral
  | 0, d => d
  | fuel + 1, d =>
    if d.digits ≠ 0 ∧ d.digits % 10 = 0 then strip fuel ⟨d.digits / 10, d.exponent + 1⟩ else d

/-- The decimal with the fewest digits that reads back, for a number other than zero. -/
def shortest (x : Binary) (tie : Tie) : Numeral :=
  let top := x.scale
  let found := (List.range 17).findSome? fun n => x.onGrid? tie (top - (n + 1 : Nat))
  strip 20 (found.getD ⟨x.m * Nat.pow 2 x.q.toNat, 0⟩)

end Binary

/-! ## Layout of the digits -/

/-- How a numeral is written: positionally while the point stands within `lowest ≤ point ≤ highest`
(counted from the left end of the digits), otherwise with an exponent, which always has a sign. -/
structure Spelling where
  lowest : Option Int
  highest : Option Int
  tie : Tie
  deriving Repr

/-- Whether a point position is written positionally. -/
def Spelling.isPositional (n : Spelling) (point : Int) : Bool :=
  (match n.lowest with | none => true | some k => decide (k ≤ point)) &&
  (match n.highest with | none => true | some k => decide (point ≤ k))

/-- A numeral as text; a whole number keeps one zero behind its point. -/
def Numeral.render (n : Spelling) (d : Numeral) : String :=
  let digits := Nat.toDigits 10 d.digits
  let zeros (count : Int) := List.replicate count.toNat '0'
  let point : Int := digits.length + d.exponent
  String.ofList <|
    if d.digits = 0 then ['0', '.', '0']
    else if n.isPositional point then
      if 0 ≤ d.exponent then digits ++ zeros d.exponent ++ ['.', '0']
      else if 0 < point then digits.take point.toNat ++ '.' :: digits.drop point.toNat
      else '0' :: '.' :: zeros (-point) ++ digits
    else
      let fraction := match digits.drop 1 with
        | [] => []
        | rest => '.' :: rest
      let power := point - 1
      let sign := if power < 0 then '-' else '+'
      digits.take 1 ++ fraction ++ 'e' :: sign :: (toString power.natAbs).toList

/-- A floating-point number as text. -/
def renderFloat (n : Spelling) (x : Float) : String :=
  let bits := x.toBits
  if x.isNaN then "NaN"
  else
    let sign := if bits >>> 63 = 1 then "-" else ""
    if x.isInf then sign ++ "inf"
    else
      let magnitude := Binary.ofBits bits
      let numeral := if magnitude.m = 0 then ⟨0, 0⟩ else magnitude.shortest n.tie
      sign ++ numeral.render n

end AmountPad.Decimal
