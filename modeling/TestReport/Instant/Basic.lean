import TestReport.Instant.Calendar

/-!
# Instants

An instant is a day, a second of that day and a fraction in nanoseconds. The days reach from the
first day of the year -262143 to the last day of the year 262142, the bounds of the calendar in
which results are written. A leap second is the last second of a minute with a fraction of a second
or more, so that the instants of a leap second come right after those of the second before it.

The three operations here are what times of a run need: the instant of a count of milliseconds from
1970 (`ofMillis?`), the instant some milliseconds earlier (`minusMillis?`), and the whole
milliseconds from one instant to another (`millisSince`). A leap second between two instants counts
only as far as the seconds of their days show it.
-/

namespace TestReport

/-- The first day of the calendar. -/
def firstDay : Int := -96465292

/-- The last day of the calendar. -/
def lastDay : Int := 95026236

/-- The number of nanoseconds of a second. -/
def nanosPerSecond : Nat := 1000000000

/-- The number of seconds of a day. -/
def secondsPerDay : Nat := 86400

/-- A point in time. -/
structure Instant where
  day : Int
  second : Nat
  nano : Nat
  day_range : firstDay ≤ day ∧ day ≤ lastDay
  second_lt : second < secondsPerDay
  nano_lt : nano < nanosPerSecond ∨ second % 60 = 59 ∧ nano < 2 * nanosPerSecond
deriving DecidableEq

namespace Instant

/-- The instant of a day, a second of the day and a fraction, where there is one. -/
def of? (day : Int) (second nano : Nat) : Option Instant :=
  if h : (firstDay ≤ day ∧ day ≤ lastDay) ∧ second < secondsPerDay ∧
      (nano < nanosPerSecond ∨ second % 60 = 59 ∧ nano < 2 * nanosPerSecond) then
    some ⟨day, second, nano, h.1, h.2.1, h.2.2⟩
  else none

/-- The start of 1970. -/
def epoch : Instant where
  day := 0
  second := 0
  nano := 0
  day_range := by decide
  second_lt := by decide
  nano_lt := by decide

instance : Inhabited Instant := ⟨epoch⟩

theorem of?_self (t : Instant) : of? t.day t.second t.nano = some t := by
  simp [of?, t.day_range, t.second_lt, t.nano_lt]

/-- The instant some nanoseconds after the start of 1970, or before it. -/
def ofNanos? (nanos : Int) : Option Instant :=
  let seconds := nanos / nanosPerSecond
  of? (seconds / secondsPerDay) (seconds % secondsPerDay).toNat (nanos % nanosPerSecond).toNat

/-! ## Order -/

/-- Whether an instant comes before another one. -/
def before (a b : Instant) : Bool :=
  a.day < b.day || (a.day == b.day &&
    (a.second < b.second || (a.second == b.second && a.nano < b.nano)))

/-! ## Milliseconds -/

/-- The instant some milliseconds after the start of 1970, or before it. -/
def ofMillis? (millis : Int) : Option Instant :=
  let ofDay := millis % (secondsPerDay * 1000)
  of? (millis / (secondsPerDay * 1000)) (ofDay / 1000).toNat (ofDay % 1000 * 1000000).toNat

/-- The instant some milliseconds before another one. Inside a leap second less than a second is
taken from its fraction; otherwise the leap second counts as the second that follows it. -/
def minusMillis? (t : Instant) (millis : Nat) : Option Instant :=
  if nanosPerSecond ≤ t.nano ∧ millis < 1000 then
    of? t.day t.second (t.nano - millis * 1000000)
  else
    let leap := if nanosPerSecond ≤ t.nano then 1 else 0
    let nano : Int := t.nano - leap * nanosPerSecond - (millis % 1000 * 1000000 : Nat)
    let second : Int := t.second + leap - (millis / 1000 : Nat) + nano / nanosPerSecond
    of? (t.day + second / secondsPerDay) (second % secondsPerDay).toNat
      (nano % nanosPerSecond).toNat

/-- The nanoseconds from `b` to `a`. -/
def nanosSince (a b : Instant) : Int :=
  let leap : Int :=
    if b.second < a.second ∧ nanosPerSecond ≤ b.nano then 1
    else if a.second < b.second ∧ nanosPerSecond ≤ a.nano then -1
    else 0
  ((a.day - b.day) * secondsPerDay + (a.second - b.second) + leap) * nanosPerSecond +
    (a.nano - b.nano)

/-- The whole milliseconds from `b` to `a`. -/
def millisSince (a b : Instant) : Int :=
  (nanosSince a b).tdiv 1000000

/-- The instant some milliseconds before another one, or that one itself where there is none. -/
def startedBefore (finish : Instant) (millis : Nat) : Instant :=
  (finish.minusMillis? millis).getD finish

end Instant

example : Calendar.dayNumber (-262143) 1 1 = firstDay := by decide
example : Calendar.dayNumber 262142 12 31 = lastDay := by decide

end TestReport
