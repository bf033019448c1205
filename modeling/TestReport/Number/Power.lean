/-!
# Powers of two and ten

The two families of powers that numbers are built from, as natural numbers.
-/

namespace TestReport

/-- The power of two with an exponent. -/
def twoPow (exponent : Nat) : Nat :=
  Nat.pow 2 exponent

/-- The power of ten with an exponent. -/
def tenPow (exponent : Nat) : Nat :=
  Nat.pow 10 exponent

theorem twoPow_succ (n : Nat) : twoPow (n + 1) = twoPow n * 2 := rfl

theorem tenPow_succ (n : Nat) : tenPow (n + 1) = tenPow n * 10 := rfl

theorem twoPow_pos (n : Nat) : 0 < twoPow n := Nat.pow_pos (by decide)

theorem tenPow_pos (n : Nat) : 0 < tenPow n := Nat.pow_pos (by decide)

end TestReport
