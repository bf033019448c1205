import TestReport.Proofs.Decoded
import Mathlib.Data.List.Basic
import Mathlib.Algebra.Ring.Nat

/-!
# What depends on the current time

The current time is an argument of a parse, where it stands in for the start or the end of a run
that a report does not give. Two parses of one output at different times should differ in these two
times at most: `Report.withoutTimes` is what is left to compare.

Mocha and Vitest keep to that, and so do outputs that cannot be read. Jest computes the duration
from start and end. It does so whenever a start is *given*, also when the start means no instant,
and then the current time is subtracted from the end of the last file. The end of such a run is its
`openFinish?`, and `Adapter.withoutTimes_parse_iff` says that there is no other way for the current
time into a result: two parses agree exactly when the end is equally far from both times, where an
end before a time counts as no distance. So they agree at all times exactly when there is no such
end, or one that no time comes before.
-/

namespace TestReport

/-! ## Results without times -/

/-- A summary with its start and end left out. -/
def Summary.withoutTimes (s : Summary) : Summary :=
  { s with startTime := .epoch, endTime := .epoch }

/-- A result with its start and end left out. -/
def Report.withoutTimes (r : Report) : Report :=
  { r with summary := r.summary.withoutTimes }

/-- The milliseconds from a start to a finish; none if the start is later. -/
def elapsed (finish start : Instant) : UInt64 :=
  wordOfNat (finish.millisSince start).toNat

theorem MochaReport.withoutTimes_toReport (r : MochaReport) (environment : Environment)
    (options : Options) (now now' : Instant) :
    (r.toReport environment options now).withoutTimes =
      (r.toReport environment options now').withoutTimes := by
  rfl

theorem VitestRun.withoutTimes_toReport (run : VitestRun) (environment : Environment)
    (now now' : Instant) :
    (run.toReport environment now).withoutTimes = (run.toReport environment now').withoutTimes := by
  unfold Report.withoutTimes VitestRun.toReport VitestRun.summary
  cases run.totals with
  | none => rfl
  | some totals => rfl

theorem Report.withoutTimes_degraded (framework : Framework) (environment : Environment)
    (output : String) (e : ExtractError) (now now' : Instant) :
    (Report.degraded framework environment output e now).withoutTimes =
      (Report.degraded framework environment output e now').withoutTimes :=
  rfl

/-! ## The duration of a Jest run -/

namespace JestReport

/-- The end of a run whose start is given but means no instant. -/
def openFinish? (r : JestReport) : Option Instant :=
  if r.startTime.isSome ∧ r.startTime.bind TimeStamp.instant? = none then r.latestEnd? else none

variable {r : JestReport} {suites : List Suite}

theorem duration_of_openFinish? {finish : Instant} (h : r.openFinish? = some finish)
    (now : Instant) : (r.summary suites now).duration = elapsed finish now := by
  unfold openFinish? at h
  split at h
  · next hstart =>
    obtain ⟨hgiven, hunreadable⟩ := hstart
    simp only [summary, hgiven, hunreadable, h, Option.isSome_some, and_self, if_true,
      Option.getD_some, Option.getD_none]
    rfl
  · cases h

/-- Without such an end the duration comes from a readable start and end, or from no time at all. -/
theorem duration_of_openFinish?_eq_none (h : r.openFinish? = none) (now now' : Instant) :
    (r.summary suites now).duration = (r.summary suites now').duration := by
  simp only [summary]
  by_cases hgiven : r.startTime.isSome = true ∧ r.latestEnd?.isSome = true
  · obtain ⟨finish, hfinish⟩ := Option.isSome_iff_exists.1 hgiven.2
    have hreadable : r.startTime.bind TimeStamp.instant? ≠ none := by
      intro hunreadable
      rw [openFinish?, if_pos ⟨hgiven.1, hunreadable⟩, hfinish] at h
      cases h
    obtain ⟨start, hstart⟩ := Option.ne_none_iff_exists'.1 hreadable
    rw [if_pos hgiven, if_pos hgiven, hstart, hfinish]
    rfl
  · rw [if_neg hgiven, if_neg hgiven]

/-- Apart from start and end, only the duration of a summary can mention the current time. -/
theorem withoutTimes_summary {now now' : Instant}
    (h : (r.summary suites now).duration = (r.summary suites now').duration) :
    (r.summary suites now).withoutTimes = (r.summary suites now').withoutTimes := by
  unfold Summary.withoutTimes
  rw [h]
  rfl

theorem withoutTimes_toReport_iff {coverage : Option Coverage} {environment : Environment}
    {options : Options} {now now' : Instant} :
    (r.toReport coverage environment options now).withoutTimes =
        (r.toReport coverage environment options now').withoutTimes ↔
      ∀ finish ∈ r.openFinish?, elapsed finish now = elapsed finish now' := by
  constructor
  · intro h finish hfinish
    have hduration : (r.summary (r.suites options) now).duration =
        (r.summary (r.suites options) now').duration :=
      congrArg (fun r : Report => r.summary.duration) h
    rwa [duration_of_openFinish? hfinish, duration_of_openFinish? hfinish] at hduration
  · intro h
    have hduration : (r.summary (r.suites options) now).duration =
        (r.summary (r.suites options) now').duration := by
      cases hfinish : r.openFinish? with
      | none => exact duration_of_openFinish?_eq_none hfinish now now'
      | some finish =>
        rw [duration_of_openFinish? hfinish, duration_of_openFinish? hfinish]
        exact h finish hfinish
    unfold Report.withoutTimes toReport
    dsimp only
    rw [withoutTimes_summary hduration]

end JestReport

/-! ## The start of the calendar -/

/-- The first instant there is. -/
def Instant.first : Instant where
  day := firstDay
  second := 0
  nano := 0
  day_range := by decide
  second_lt := epoch.second_lt
  nano_lt := epoch.nano_lt

theorem elapsed_eq_zero_iff {finish start : Instant} :
    elapsed finish start = 0 ↔ finish.nanosSince start < 1000000 := by
  have hword : elapsed finish start = 0 ↔ (finish.millisSince start).toNat = 0 := by
    rw [elapsed, ← UInt64.toNat_inj, toNat_wordOfNat, UInt64.toNat_zero]
    have hpos : 0 < maxWord := by decide
    omega
  have hsign : Int.sign 1000000 = 1 := rfl
  rw [hword, Instant.millisSince, Int.tdiv_eq_ediv, hsign]
  split <;> omega

theorem elapsed_self (t : Instant) : elapsed t t = 0 := by
  rw [elapsed_eq_zero_iff]
  simp [Instant.nanosSince]

theorem Instant.nanosSince_first (t : Instant) :
    t.nanosSince .first =
      ((t.day - firstDay) * secondsPerDay + t.second) * nanosPerSecond + t.nano := by
  have hbefore : ¬ (0 < t.second ∧ nanosPerSecond ≤ 0) := by simp [nanosPerSecond]
  have hafter : ¬ (t.second < 0 ∧ nanosPerSecond ≤ t.nano) := by omega
  simp only [nanosSince, first, hbefore, hafter, if_false, Int.natCast_zero, Int.sub_zero,
    Int.add_zero]

/-- What is not after the first instant, to the millisecond, is after no instant. -/
theorem elapsed_eq_zero {finish : Instant} (h : elapsed finish .first = 0) (now : Instant) :
    elapsed finish now = 0 := by
  rw [elapsed_eq_zero_iff, Instant.nanosSince_first] at h
  have hday := finish.day_range.1
  have hnow := now.day_range.1
  obtain ⟨hsecond, hnano⟩ : finish.second = 0 ∧ finish.nano < 1000000 := by
    unfold secondsPerDay nanosPerSecond at h
    omega
  -- Neither is a leap second that lies between the two.
  have hbefore : ¬ (now.second < finish.second ∧ nanosPerSecond ≤ now.nano) := by omega
  have hafter : ¬ (finish.second < now.second ∧ nanosPerSecond ≤ finish.nano) := by
    unfold nanosPerSecond
    omega
  rw [elapsed_eq_zero_iff]
  simp only [Instant.nanosSince, hbefore, hafter, if_false]
  unfold secondsPerDay nanosPerSecond at h ⊢
  omega

/-! ## All parses -/

/-- The end of the Jest run in an output, if its start is given but means no instant. -/
def Adapter.openFinish? (a : Adapter) (output : String) : Option Instant :=
  match a.framework with
  | .jest => (locateReport output.toList >>= JestReport.ofMembers?).toOption.bind (·.openFinish?)
  | .mocha | .vitest => none

theorem Adapter.withoutTimes_parse_iff_elapsed (a : Adapter) (overrides : Overrides)
    (output : String) (now now' : Instant) :
    (a.parse overrides output now).withoutTimes = (a.parse overrides output now').withoutTimes ↔
      ∀ finish ∈ a.openFinish? output, elapsed finish now = elapsed finish now' := by
  obtain ⟨framework, environment, defaults⟩ := a
  have hdegraded : ∀ e : ExtractError,
      (Report.degraded framework environment output e now).withoutTimes =
        (Report.degraded framework environment output e now').withoutTimes :=
    fun e => Report.withoutTimes_degraded framework environment output e now now'
  unfold Adapter.parse Adapter.decode Framework.decode Adapter.openFinish?
  cases framework with
  | mocha =>
    simp only [Option.not_mem_none, false_implies, implies_true, iff_true]
    unfold MochaReport.decode
    cases findObject output.toList "mocha" "stats" with
    | error e => exact hdegraded e
    | ok members =>
      cases hwritten : MochaReport.ofMembers? members with
      | error e =>
        simp only [bind, Except.bind, hwritten]
        exact hdegraded e
      | ok written =>
        simp only [bind, Except.bind, hwritten, pure, Except.pure]
        exact written.withoutTimes_toReport environment _ now now'
  | vitest =>
    simp only [Option.not_mem_none, false_implies, implies_true, iff_true]
    unfold VitestRun.decode
    cases VitestRun.events output.toList with
    | nil =>
      dsimp only
      cases (VitestRun.eventLines output.toList).findSome? VitestRun.brokenEvent? with
      | none => exact hdegraded _
      | some reason => exact hdegraded _
    | cons event rest => exact VitestRun.withoutTimes_toReport _ environment now now'
  | jest =>
    unfold JestReport.decode
    cases locateReport output.toList with
    | error e => simpa [bind, Except.bind, Except.toOption] using hdegraded e
    | ok members =>
      cases hwritten : JestReport.ofMembers? members with
      | error e =>
        simp only [bind, Except.bind, hwritten, Except.toOption]
        simpa using hdegraded e
      | ok written =>
        simp only [bind, Except.bind, hwritten, pure, Except.pure, Except.toOption]
        exact JestReport.withoutTimes_toReport_iff

/-- Two parses of an output agree exactly when the end of a Jest run without a readable start is
equally far from both times, and all parses of it agree exactly when no time comes before it. -/
theorem Adapter.withoutTimes_parse_iff (a : Adapter) (overrides : Overrides) (output : String) :
    (∀ now now', (a.parse overrides output now).withoutTimes =
        (a.parse overrides output now').withoutTimes ↔
      ∀ finish ∈ a.openFinish? output, elapsed finish now = elapsed finish now') ∧
    ((∀ now now', (a.parse overrides output now).withoutTimes =
        (a.parse overrides output now').withoutTimes) ↔
      ∀ finish ∈ a.openFinish? output, elapsed finish .first = 0) := by
  refine ⟨a.withoutTimes_parse_iff_elapsed overrides output, ?_⟩
  simp only [withoutTimes_parse_iff_elapsed]
  constructor
  · intro h finish hfinish
    rw [h .first finish finish hfinish, elapsed_self]
  · intro h now now' finish hfinish
    have hzero := h finish hfinish
    rw [elapsed_eq_zero hzero now, elapsed_eq_zero hzero now']

/-- A Jest report that starts at no instant and gives its length. -/
def openStartOutput : String :=
  "\x7b\"numTotalTests\":0,\"startTime\":\"soon\",\"runTimeMs\":42,\"testResults\":[" ++
  "\x7b\"endTime\":\"2024-05-02T09:15:00Z\"\x7d]\x7d"

/-- The end in that report. -/
def openFinish : Instant where
  day := 19845
  second := 33300
  nano := 0
  day_range := by decide
  second_lt := by decide
  nano_lt := by decide

/-- Its run seems the longer the earlier it is read. -/
theorem Adapter.withoutTimes_parse_openStartOutput :
    (({ framework := .jest } : Adapter).parse {} openStartOutput .epoch).withoutTimes ≠
      (({ framework := .jest } : Adapter).parse {} openStartOutput .first).withoutTimes := by
  have hlocate : locateReport openStartOutput.toList =
      .ok [("numTotalTests", .num (.int 0)), ("runTimeMs", .num (.int 42)),
        ("startTime", .str "soon"),
        ("testResults", .arr [.obj [("endTime", .str "2024-05-02T09:15:00Z")]])] := by
    unfold openStartOutput
    simp only [String.toList_append]
    decide +kernel
  have hfinish : openFinish ∈ ({ framework := .jest } : Adapter).openFinish? openStartOutput := by
    unfold Adapter.openFinish?
    rw [hlocate]
    decide +kernel
  intro h
  have hsame : elapsed openFinish .epoch = elapsed openFinish .first :=
    (withoutTimes_parse_iff_elapsed _ {} openStartOutput .epoch .first).1 h openFinish hfinish
  exact absurd hsame (by decide +kernel)

end TestReport
