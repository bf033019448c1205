import TestReport.Number.Power

/-!
# Counters that saturate

Counts and durations are 64-bit words. Where they are added up, a sum beyond the largest word is
that word. In terms of natural numbers, adding is addition followed by `min` with the largest word
(`toNat_addSat`), so the order in which terms are added does not matter (`addSat_right_comm`).
-/

namespace TestReport

/-- The largest 64-bit word. -/
def maxWord : Nat := twoPow 64 - 1

/-- The word nearest to a natural number. -/
def wordOfNat (n : Nat) : UInt64 :=
  UInt64.ofNat (min n maxWord)

/-- The sum of two words, or the largest word if that is less. -/
def addSat (a b : UInt64) : UInt64 :=
  wordOfNat (a.toNat + b.toNat)

/-- The sum of words, or the largest word if that is less. -/
def sumSat (words : List UInt64) : UInt64 :=
  words.foldl addSat 0

theorem toNat_wordOfNat (n : Nat) : (wordOfNat n).toNat = min n maxWord := by
  have h : min n maxWord < 18446744073709551616 :=
    Nat.lt_of_le_of_lt (Nat.min_le_right ..) (by decide)
  rw [wordOfNat, UInt64.toNat_ofNat', Nat.mod_eq_of_lt h]

theorem toNat_addSat (a b : UInt64) : (addSat a b).toNat = min (a.toNat + b.toNat) maxWord :=
  toNat_wordOfNat _

theorem addSat_right_comm (a b c : UInt64) : addSat (addSat a b) c = addSat (addSat a c) b := by
  apply UInt64.toNat_inj.1
  simp only [toNat_addSat]
  omega

end TestReport
