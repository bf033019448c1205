import TestReport.Extract
import TestReport.Framework
import TestReport.Report.Basic
import TestReport.Text.Path

/-!
# Results of outputs that cannot be read

An output that no report can be read from has a result all the same: a single failed test that says
why, in a suite of its own. Of the counts only that of failed tests is not zero. The start of the
output is kept in the metadata.
-/

namespace TestReport

/-- How many characters of an unreadable output are kept. -/
def rawOutputLimit : Nat := 1000

/-- The error of the test that stands for an unreadable output. -/
def ExtractError.failure (e : ExtractError) (framework : Framework) : Failure :=
  let message := "Failed to parse " ++ framework.name ++ " output: " ++ e.message
  { message := message
    stack :=
      match e.cause? with
      | some cause => message ++ "\n  caused by: " ++ cause
      | none => message
    kind := "ParseError" }

/-- The test that stands for an unreadable output. -/
def ExtractError.test (e : ExtractError) (framework : Framework) : Test where
  id := "parse-error"
  name := "Failed to parse test output"
  fullName := "Failed to parse test output"
  status := .failed
  error := some (e.failure framework)

/-- The result of an output that no report can be read from. -/
def Report.degraded (framework : Framework) (environment : Environment) (output : String)
    (e : ExtractError) (now : Instant) : Report where
  summary := { failedTests := 1, startTime := now, endTime := now }
  suites := [{ name := "Parse Error", status := .failed, tests := [e.test framework] }]
  metadata :=
    { Metadata.forRun framework.name none environment with
      parseError := true
      rawOutput := some (Text.excerpt rawOutputLimit output) }

end TestReport
