/-!
# Sets of characters

A set of characters as the ascending list of code points at which membership switches, starting
outside the set: `[a, b, c, d]` holds the characters from `a` to `b - 1` and from `c` to `d - 1`.
-/

namespace AmountPad.Text

structure CharSet where
  switches : List Nat

namespace CharSet

/-- A code point lies in the set when it has passed an odd number of switches. -/
def hasCode (s : CharSet) (code : Nat) : Bool :=
  s.switches.countP (· ≤ code) % 2 == 1

def has (s : CharSet) (c : Char) : Bool := s.hasCode c.toNat

/-- Below its first switch a set has no member. -/
theorem hasCode_eq_false_of_lt {s : CharSet} {code : Nat}
    (h : ∀ p ∈ s.switches, code < p) : s.hasCode code = false := by
  have : s.switches.countP (· ≤ code) = 0 := by
    rw [List.countP_eq_zero]
    intro p hp
    simpa using h p hp
  simp [hasCode, this]

end CharSet

end AmountPad.Text
