import TestReport.Number.Binary64

/-!
# The shortest decimal form of a float

Every finite float has an interval of reals that round to it; the ends belong to it exactly when the
mantissa is even, and below a power of two the interval is narrower on the lower side. The shortest
form is the decimal with the fewest digits inside that interval, and of those the one nearest to the
float. `shortest` looks for it on ever finer decimal grids: if a grid has a point in the interval,
then one of the two grid points next to the float is such a point, so two tests per grid are enough
and seventeen digits always suffice.

`FloatFormat` holds the choices that the digits leave open, and `FloatFormat.report` is the one that
results are printed in: positional from `1e-5` up to but not including `1e16`, always with a
fraction or an exponent, the exponent with its sign and at least two digits.
-/

namespace TestReport

/-! ## The digits -/

/-- The value `digits * 10 ^ exponent`. -/
structure Decimal where
  digits : Nat
  exponent : Int
deriving DecidableEq, Repr

namespace Decimal

/-- Drops trailing zeros of the digits, at most `fuel` of them. -/
def dropZeros : Nat → Decimal → Decimal
  | 0, d => d
  | fuel + 1, d =>
    if d.digits ≠ 0 ∧ d.digits % 10 = 0 then dropZeros fuel ⟨d.digits / 10, d.exponent + 1⟩ else d

/-- The digits as text. -/
def text (d : Decimal) : List Char :=
  (toString d.digits).toList

/-- The exponent of the leading digit. -/
def leading (d : Decimal) : Int :=
  d.exponent + (d.text.length - 1 : Int)

end Decimal

namespace Binary64

/-- The exponent of the leading decimal digit of `num / den`, for a quotient that is not zero. -/
def leadingExponent (num den : Nat) : Int :=
  if den ≤ num then ((toString (num / den)).length - 1 : Int)
  else
    let rec below : Nat → Nat → Int
      | 0, t => -t
      | fuel + 1, t => if den ≤ num * tenPow t then -t else below fuel (t + 1)
    below 400 1

/-- Whether `c * 10 ^ k` rounds to the float. Both sides are scaled to whole numbers, four units to
one unit of the mantissa. -/
def holds (b : Binary64) (c : Nat) (k : Int) : Bool :=
  let narrow := b.mantissa = twoPow 52 ∧ -1074 < b.exponent
  let scale := twoPow b.exponent.toNat * tenPow (-k).toNat
  let point := 4 * c * (twoPow (-b.exponent).toNat * tenPow k.toNat)
  let low := (4 * b.mantissa - if narrow then 1 else 2) * scale
  let high := (4 * b.mantissa + 2) * scale
  if b.mantissa % 2 = 0 then low ≤ point && point ≤ high else low < point && point < high

/-- The nearer of the two points of the grid `10 ^ k` around the float that round to it. -/
def onGrid? (b : Binary64) (k : Int) : Option Decimal :=
  let num := b.mantissa * twoPow b.exponent.toNat * tenPow (-k).toNat
  let den := twoPow (-b.exponent).toNat * tenPow k.toNat
  let c := num / den
  let near := roundDiv .toEven num den
  let far := if near = c then c + 1 else c
  if b.holds near k then some ⟨near, k⟩
  else if b.holds far k then some ⟨far, k⟩
  else none

/-- The shortest decimal that rounds to a float other than zero. -/
def shortest (b : Binary64) : Decimal :=
  let (num, den) := b.ratio
  let top := leadingExponent num den
  let rec search : Nat → Int → Decimal
    | 0, k => ⟨0, k⟩
    | fuel + 1, k =>
      match b.onGrid? k with
      | some d => d.dropZeros 20
      | none => search fuel (k - 1)
  search 20 top

end Binary64

/-! ## The text -/

/-- How a float is written once its digits are known. -/
structure FloatFormat where
  /-- The least exponent of a leading digit that is written positionally. -/
  least : Int
  /-- The greatest exponent of a leading digit that is written positionally. -/
  greatest : Int
  /-- The least number of digits of an exponent. -/
  exponentWidth : Nat
deriving DecidableEq, Repr

namespace FloatFormat

/-- Floats in results and messages. -/
def report : FloatFormat := ⟨-5, 15, 2⟩

/-- A decimal in positional notation, with at least one digit on either side of the point. -/
def positional (d : Decimal) : List Char :=
  let digits := d.text
  if 0 ≤ d.exponent then digits ++ List.replicate d.exponent.toNat '0' ++ ['.', '0']
  else if 0 ≤ d.leading then
    let whole := d.leading.toNat + 1
    digits.take whole ++ '.' :: digits.drop whole
  else ['0', '.'] ++ List.replicate (-d.leading - 1).toNat '0' ++ digits

/-- A decimal with an exponent, its point after the first digit. -/
def scientific (f : FloatFormat) (d : Decimal) : List Char :=
  let mantissa :=
    match d.text with
    | [] => []
    | [c] => [c]
    | c :: cs => c :: '.' :: cs
  let exponent := (toString d.leading.natAbs).toList
  let padding := List.replicate (f.exponentWidth - exponent.length) '0'
  mantissa ++ ['e', if 0 ≤ d.leading then '+' else '-'] ++ padding ++ exponent

/-- The text of a finite float. -/
def render (f : FloatFormat) (b : Binary64) : List Char :=
  let sign := if b.negative then ['-'] else []
  if b.mantissa = 0 then sign ++ ['0', '.', '0']
  else
    let d := b.shortest
    sign ++ if f.least ≤ d.leading ∧ d.leading ≤ f.greatest then positional d else f.scientific d

end FloatFormat

/-- The text of a float in results and messages; nothing for an infinity or a NaN. -/
def floatText? (x : Float) : Option String :=
  (Binary64.ofFloat? x).map fun b => String.ofList (FloatFormat.report.render b)

example : floatText? 1.5 = some "1.5" := by decide +kernel
example : floatText? 1e20 = some "1e+20" := by decide +kernel
example : floatText? 18446744073709551616 = some "1.8446744073709552e+19" := by decide +kernel

end TestReport
