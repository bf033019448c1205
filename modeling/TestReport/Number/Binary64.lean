import TestReport.Number.Power

/-!
# Exact values of floats

A finite binary64 float is an integer times a power of two, and everything that has to be exact
about it is computed on those integers: rounding to a whole number, rounding to a fixed count of
decimal places, and (in `TestReport.Number.Shortest`) its shortest decimal form.

`Binary64.ofFloat?` takes a float apart. `roundDiv` divides natural numbers and rounds to nearest,
with the treatment of ties as a parameter, and both roundings here are instances of it.
-/

namespace TestReport

/-- The value `mantissa * 2 ^ exponent`, negated when `negative` is set. -/
structure Binary64 where
  negative : Bool
  mantissa : Nat
  exponent : Int
deriving DecidableEq, Repr

/-- What becomes of a number that lies halfway between two neighbours. -/
inductive Tie
  | awayFromZero
  | toEven
deriving DecidableEq, Repr

/-- The quotient of two natural numbers, rounded to nearest. -/
def roundDiv (tie : Tie) (num den : Nat) : Nat :=
  let q := num / den
  let twice := 2 * (num % den)
  if twice < den then q
  else if den < twice then q + 1
  else
    match tie with
    | .awayFromZero => q + 1
    | .toEven => q + q % 2

namespace Binary64

/-- The exact value of a finite float; nothing for an infinity or a NaN. -/
def ofFloat? (x : Float) : Option Binary64 :=
  let bits := x.toBits.toNat
  let fraction := bits % twoPow 52
  let biased : Nat := bits / twoPow 52 % twoPow 11
  let negative : Bool := twoPow 63 ≤ bits
  if biased = 2047 then none
  else if biased = 0 then some ⟨negative, fraction, -1074⟩
  else some ⟨negative, twoPow 52 + fraction, Int.ofNat biased - 1075⟩

/-- The magnitude as a fraction: numerator and denominator. -/
def ratio (b : Binary64) : Nat × Nat :=
  (b.mantissa * twoPow b.exponent.toNat, twoPow (-b.exponent).toNat)

/-- The nearest whole number, a half going away from zero. -/
def round (b : Binary64) : Int :=
  let (num, den) := b.ratio
  let magnitude : Int := roundDiv .awayFromZero num den
  if b.negative then -magnitude else magnitude

/-- The magnitude in units of `10 ^ -places`, a tie going to the even neighbour. -/
def scaled (b : Binary64) (places : Nat) : Nat :=
  let (num, den) := b.ratio
  roundDiv .toEven (num * tenPow places) den

example : (ofFloat? 2.5).map round = some 3 := by decide +kernel
example : (ofFloat? (-2.5)).map round = some (-3) := by decide +kernel
example : (ofFloat? 0.25).map (scaled · 1) = some 2 := by decide +kernel

end Binary64

/-- A denominator keeps the rounded quotient within half a unit of the exact one. -/
theorem two_mul_roundDiv_mul_le (tie : Tie) (num : Nat) {den : Nat} (h : 0 < den) :
    2 * (roundDiv tie num den * den) ≤ 2 * num + den := by
  have hdiv : den * (num / den) + num % den = num := Nat.div_add_mod num den
  have hmod : num % den < den := Nat.mod_lt num h
  have hcomm : num / den * den = den * (num / den) := Nat.mul_comm ..
  have hpar : num / den % 2 = 0 ∨ num / den % 2 = 1 := Nat.mod_two_eq_zero_or_one _
  unfold roundDiv
  simp only
  split
  · omega
  · split
    · rw [Nat.add_mul, hcomm]; omega
    · cases tie
      · simp only [Nat.add_mul, hcomm]; omega
      · rcases hpar with e | e <;> simp only [e, Nat.add_mul, hcomm] <;> omega

end TestReport
