/-!
# Outcomes of tests and suites

Every framework has its own words for the outcome of a test. `Status.ofNative` maps them onto five
outcomes; a word that it does not know counts as skipped, so that no test is dropped. The outcomes
fall into three classes, by which tests are counted and listed: failures (`isFailure`), skipped ones
(`isSkipped`) and the passed ones, which are the rest. A suite has failed once one of its tests is a
failure (`SuiteStatus.absorb`).
-/

namespace TestReport

/-- The outcome of a test. -/
inductive Status
  | passed
  | failed
  | skipped
  | todo
  | timedOut
deriving DecidableEq, Repr, Inhabited

namespace Status

/-- The spelling of an outcome in results. -/
def name : Status → String
  | passed => "passed"
  | failed => "failed"
  | skipped => "skipped"
  | todo => "todo"
  | timedOut => "timedOut"

/-- The sign that stands for an outcome in printed lists. -/
def icon : Status → String
  | passed => "✔"
  | failed => "✘"
  | skipped => "⊘"
  | todo => "◌"
  | timedOut => "⧖"

/-- Whether a test with this outcome has an error and counts as failed. -/
def isFailure : Status → Bool
  | failed | timedOut => true
  | passed | skipped | todo => false

/-- Whether a test with this outcome counts as skipped. -/
def isSkipped : Status → Bool
  | skipped | todo => true
  | passed | failed | timedOut => false

/-- The outcome that a framework's own word means. -/
def ofNative (word : String) : Status :=
  if word = "passed" ∨ word = "pass" ∨ word = "passes" then passed
  else if word = "failed" ∨ word = "fail" ∨ word = "failures" then failed
  else if word = "todo" then todo
  else if word = "timedOut" ∨ word = "timedout" ∨ word = "timeout" then timedOut
  else skipped

/-- The outcome with a given spelling in results. -/
def ofName? : String → Option Status
  | "passed" => some passed
  | "failed" => some failed
  | "skipped" => some skipped
  | "todo" => some todo
  | "timedOut" => some timedOut
  | _ => none

theorem ofName?_name (s : Status) : ofName? s.name = some s := by
  cases s <;> rfl

theorem ofNative_name (s : Status) : ofNative s.name = s := by
  cases s <;> rfl

theorem isFailure_iff {s : Status} : s.isFailure = true ↔ s = failed ∨ s = timedOut := by
  cases s <;> simp [isFailure]

/-- No outcome is in two classes. -/
theorem not_isSkipped_of_isFailure {s : Status} (h : s.isFailure = true) : s.isSkipped = false := by
  cases s <;> simp_all [isFailure, isSkipped]

end Status

/-- The outcome of a suite. -/
inductive SuiteStatus
  | passed
  | failed
deriving DecidableEq, Repr, Inhabited

namespace SuiteStatus

/-- The spelling of a suite's outcome in results. -/
def name : SuiteStatus → String
  | passed => "passed"
  | failed => "failed"

/-- The suite's outcome with a given spelling in results. -/
def ofName? : String → Option SuiteStatus
  | "passed" => some passed
  | "failed" => some failed
  | _ => none

/-- The outcome of a suite after one more test. -/
def absorb (suite : SuiteStatus) (test : Status) : SuiteStatus :=
  if test.isFailure then failed else suite

theorem ofName?_name (s : SuiteStatus) : ofName? s.name = some s := by
  cases s <;> rfl

/-- A suite has failed after a run of tests exactly if it had before or one of them is a failure. -/
theorem foldl_absorb_eq_failed (suite : SuiteStatus) (tests : List Status) :
    tests.foldl absorb suite = failed ↔ suite = failed ∨ ∃ t ∈ tests, t.isFailure = true := by
  induction tests generalizing suite with
  | nil => simp
  | cons t rest ih =>
    rw [List.foldl_cons, ih]
    cases ht : t.isFailure <;> simp [absorb, ht]

end SuiteStatus

end TestReport
