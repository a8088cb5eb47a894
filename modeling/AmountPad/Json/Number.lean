import AmountPad.Decimal.Shortest
import AmountPad.Json.Fault

/-!
# Numbers in JSON texts

* `Numeral` — a number as it is spelled; `Numeral.scan` — the longest one at the front of a text;
* `Numeral.value` — the number itself: a natural number or a negative integer of 64 bits where it
  fits, otherwise a binary floating-point number.
-/

namespace AmountPad.Json

/-- A number as spelled: digits before the point, behind it, and of a signed exponent. -/
structure Numeral where
  negative : Bool
  whole : List Char
  fraction : Option (List Char)
  exponent : Option (Bool × List Char)
  deriving DecidableEq, Repr

namespace Numeral

/-! ## Spelling -/

/-- Why no number stands at the front of a text. -/
inductive Break where
  | malformed
  /-- The text ends where a digit has to follow. -/
  | textEnds
  deriving DecidableEq, Repr

/-- The digits at the front of a text, of which there must be one. -/
def scanDigits (cs : List Char) : Except Break (List Char × List Char) :=
  match cs with
  | [] => .error .textEnds
  | c :: _ =>
    if c.isDigit then .ok (cs.takeWhile Char.isDigit, cs.dropWhile Char.isDigit)
    else .error .malformed

/-- The digits before the point: a zero stands alone. -/
def scanWhole (cs : List Char) : Except Break (List Char × List Char) :=
  match cs with
  | '0' :: rest =>
    match rest with
    | c :: _ => if c.isDigit then .error .malformed else .ok (['0'], rest)
    | [] => .ok (['0'], rest)
  | _ => scanDigits cs

/-- The digits behind the point, if there is one. -/
def scanFraction (cs : List Char) : Except Break (Option (List Char) × List Char) :=
  match cs with
  | '.' :: rest => do
    let (digits, rest) ← scanDigits rest
    return (some digits, rest)
  | _ => .ok (none, cs)

/-- The sign and digits of the exponent, if there is one. -/
def scanExponent (cs : List Char) : Except Break (Option (Bool × List Char) × List Char) :=
  let digits (negative : Bool) (rest : List Char) := do
    let (digits, rest) ← scanDigits rest
    return (some (negative, digits), rest)
  match cs with
  | c :: rest =>
    if c = 'e' ∨ c = 'E' then
      match rest with
      | '+' :: rest => digits false rest
      | '-' :: rest => digits true rest
      | _ => digits false rest
    else .ok (none, cs)
  | [] => .ok (none, cs)

/-- The longest number without a sign at the front of a text. -/
def scanUnsigned (negative : Bool) (cs : List Char) : Except Break (Numeral × List Char) := do
  let (whole, cs) ← scanWhole cs
  let (fraction, cs) ← scanFraction cs
  let (exponent, cs) ← scanExponent cs
  return (⟨negative, whole, fraction, exponent⟩, cs)

/-- The longest number at the front of a text. -/
def scan : List Char → Except Break (Numeral × List Char)
  | '-' :: rest => scanUnsigned true rest
  | cs => scanUnsigned false cs

/-! ### A number takes at least one character -/

theorem scanDigits_length {cs digits rest : List Char} (h : scanDigits cs = .ok (digits, rest)) :
    rest.length < cs.length := by
  unfold scanDigits at h
  split at h
  · simp at h
  · next c tail =>
    split at h
    · next hc =>
      obtain ⟨-, rfl⟩ := by simpa using h
      simp only [List.dropWhile_cons, hc, if_true, List.length_cons]
      have := (List.dropWhile_sublist Char.isDigit (l := tail)).length_le
      omega
    · simp at h

theorem scanWhole_length {cs digits rest : List Char} (h : scanWhole cs = .ok (digits, rest)) :
    rest.length < cs.length := by
  unfold scanWhole at h
  split at h
  · split at h
    · split at h
      · simp at h
      · obtain ⟨-, rfl⟩ := by simpa using h
        simp
    · obtain ⟨-, rfl⟩ := by simpa using h
      simp
  · exact scanDigits_length h

theorem scanFraction_length {cs rest : List Char} {fraction : Option (List Char)}
    (h : scanFraction cs = .ok (fraction, rest)) : rest.length ≤ cs.length := by
  unfold scanFraction at h
  split at h
  · next tail =>
    cases hd : scanDigits tail with
    | error e => simp [hd, bind, Except.bind] at h
    | ok p =>
      obtain ⟨-, rfl⟩ := by simpa [hd, bind, Except.bind, pure, Except.pure] using h
      have := scanDigits_length hd
      simp
      omega
  · simp_all

theorem scanExponent_length {cs rest : List Char} {exponent : Option (Bool × List Char)}
    (h : scanExponent cs = .ok (exponent, rest)) : rest.length ≤ cs.length := by
  have digits {b : Bool} {tail : List Char}
      (h : (do
        let (digits, rest) ← scanDigits tail
        return (some (b, digits), rest) : Except Break _) = .ok (exponent, rest)) :
      rest.length ≤ tail.length := by
    cases hd : scanDigits tail with
    | error e => simp [hd, bind, Except.bind] at h
    | ok p =>
      obtain ⟨-, rfl⟩ := by simpa [hd, bind, Except.bind, pure, Except.pure] using h
      have := scanDigits_length hd
      omega
  unfold scanExponent at h
  split at h
  · split at h
    · split at h
      all_goals
        have := digits h
        simp only [List.length_cons] at this ⊢
        omega
    · simp_all
  · simp_all

theorem scanUnsigned_length {cs rest : List Char} {negative : Bool} {n : Numeral}
    (h : scanUnsigned negative cs = .ok (n, rest)) : rest.length < cs.length := by
  unfold scanUnsigned at h
  cases hw : scanWhole cs with
  | error e => simp [hw, bind, Except.bind] at h
  | ok w =>
    cases hf : scanFraction w.2 with
    | error e => simp [hw, hf, bind, Except.bind] at h
    | ok f =>
      cases he : scanExponent f.2 with
      | error e => simp [hw, hf, he, bind, Except.bind] at h
      | ok e =>
        obtain ⟨-, rfl⟩ := by simpa [hw, hf, he, bind, Except.bind, pure, Except.pure] using h
        have := scanWhole_length hw
        have := scanFraction_length hf
        have := scanExponent_length he
        omega

theorem scan_length {cs rest : List Char} {n : Numeral} (h : scan cs = .ok (n, rest)) :
    rest.length < cs.length := by
  unfold scan at h
  split at h
  · have := scanUnsigned_length h
    simp
    omega
  · exact scanUnsigned_length h

/-! ## Value -/

/-- The number that a spelling stands for. -/
inductive Value where
  | natural (n : Nat)
  | negative (n : Nat)
  | real (x : Float)

/-- The significand so far, the power of ten that scales it, and whether a digit was dropped. -/
structure Significand where
  digits : Nat
  scale : Int
  full : Bool

def digitValue (c : Char) : Nat := c.toNat - '0'.toNat

/-- Takes digits before the point while 64 bits hold them; each later digit only scales. -/
def wholeSignificand (digits : List Char) : Significand :=
  digits.foldl (fun s c =>
    let next := s.digits * 10 + digitValue c
    if s.full || Nat.pow 2 64 ≤ next then ⟨s.digits, s.scale + 1, true⟩ else ⟨next, s.scale, false⟩)
    ⟨0, 0, false⟩

/-- Takes digits behind the point while 64 bits hold them and ignores the later ones. -/
def addFraction (s : Significand) (digits : List Char) : Significand :=
  digits.foldl (fun s c =>
    let next := s.digits * 10 + digitValue c
    if s.full || Nat.pow 2 64 ≤ next then ⟨s.digits, s.scale, true⟩ else ⟨next, s.scale - 1, false⟩)
    ⟨s.digits, s.scale, false⟩

/-- Scales by a power of ten in steps that stay within the range of a float. Three steps down take
every significand of 64 bits to zero. -/
def scaleReal : Nat → Float → Int → Except Fault Float
  | 0, x, _ => .ok x
  | fuel + 1, x, e =>
    if e.natAbs ≤ 308 then
      let power := Float.ofScientific 1 false e.natAbs
      if 0 ≤ e then
        let y := x * power
        if y.isInf then .error .numberOutOfRange else .ok y
      else .ok (x / power)
    else if x == 0.0 then .ok x
    else if 0 ≤ e then .error .numberOutOfRange
    else scaleReal fuel (x / 1e308) (e + 308)

/-- The floating-point number of a significand and a signed exponent. -/
def realValue (negative : Bool) (s : Significand) (exponent : Option (Bool × List Char)) :
    Except Fault Float := do
  let signed (x : Float) := if negative then -x else x
  let whole := Float.ofNat s.digits
  match exponent with
  | none => return signed (← scaleReal 80 whole s.scale)
  | some (down, digits) =>
    let e := digits.foldl (fun e c => e * 10 + digitValue c) 0
    if Nat.pow 2 31 ≤ e then
      if s.digits ≠ 0 ∧ ¬ down then .error .numberOutOfRange
      else return signed 0.0
    else
      return signed (← scaleReal 80 whole (if down then s.scale - e else s.scale + e))

/-- The value of a spelling. A float takes the place of an integer beyond 64 bits and of minus
zero. -/
def value (n : Numeral) : Except Fault Value := do
  let whole := wholeSignificand n.whole
  match n.fraction, n.exponent with
  | none, none =>
    if whole.full then return .real (← realValue n.negative whole none)
    else if n.negative then
      if whole.digits = 0 ∨ Nat.pow 2 63 < whole.digits then
        return .real (-(Float.ofNat whole.digits))
      else return .negative whole.digits
    else return .natural whole.digits
  | none, exponent => return .real (← realValue n.negative whole exponent)
  | some digits, exponent =>
    return .real (← realValue n.negative (addFraction whole digits) exponent)

/-- Messages write a real positionally while its point stands close to its digits. -/
def realSpelling : Decimal.Spelling := ⟨some (-4), some 16, .even⟩

/-- The number as a message names it. -/
def found (n : Numeral) : Except Fault Found := do
  match ← n.value with
  | .natural k => return .integer (toString k)
  | .negative k => return .integer ("-" ++ toString k)
  | .real x => return .real (Decimal.renderFloat realSpelling x)

end Numeral

end AmountPad.Json
