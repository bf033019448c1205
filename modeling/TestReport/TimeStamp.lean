import TestReport.Instant.Text
import TestReport.Json.Plain
import TestReport.Number.Binary64
import TestReport.Number.Saturating

/-!
# Times as reports give them

A report writes a point in time as milliseconds since 1970 or as an internet timestamp, and a
duration as milliseconds with a fraction. Neither has to make sense: a time stamp that means no
instant is left out, and a duration that is not positive counts as zero.

The time window of a run is the start and end that the report gives, with the current time in place
of each one that is missing or unreadable. The current time is an argument everywhere.
-/

namespace TestReport

/-- A point in time as a report writes it. -/
inductive TimeStamp
  | millis (x : Float)
  | text (s : String)
deriving DecidableEq

namespace TimeStamp

/-- The time stamp that a value is: a number or a string. -/
def ofPlain? : Json → Option TimeStamp
  | .num n => some (millis n.toFloat)
  | .str s => some (text s)
  | _ => none

/-- The instant that a time stamp means. -/
def instant? : TimeStamp → Option Instant
  | millis x => (Binary64.ofFloat? x).bind fun b => Instant.ofMillis? b.round
  | text s => Instant.ofText? s

/-- The start and end of a run. -/
def window (start finish : Option TimeStamp) (now : Instant) : Instant × Instant :=
  ((start.bind instant?).getD now, (finish.bind instant?).getD now)

end TimeStamp

/-! ## Time stamps as values -/

namespace Json

/-- A time stamp. -/
def Shape.time : Shape := numberOrText "NativeTime"

/-- A time stamp that may be missing. -/
def Shape.optionalTime : Shape := optional time

/-- The time stamp at a key, if there is one. -/
def timeAt? (v : Json) (key : String) : Option TimeStamp :=
  (v.get? key).bind TimeStamp.ofPlain?

end Json

/-- The time stamp that a value reads as. -/
def TimeStamp.ofJson? (v : Json) : Except Json.Mismatch TimeStamp :=
  match TimeStamp.ofPlain? v with
  | some t => .ok t
  | none => .error (Json.noVariant "NativeTime")

/-! ## Durations -/

/-- Whole milliseconds of a duration, a half rounded up; zero unless it is positive and finite. -/
def wholeMillis (duration : Option Float) : UInt64 :=
  match duration.bind Binary64.ofFloat? with
  | some b => wordOfNat b.round.toNat
  | none => 0

example : wholeMillis (some 4.5) = 5 := by decide +kernel
example : wholeMillis (some (-3.0)) = 0 := by decide +kernel
example : wholeMillis (some 1e30) = 18446744073709551615 := by decide +kernel

end TestReport
