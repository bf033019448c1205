import TestReport.Query
import TestReport.Text.Lines

/-!
# Results in print

A result is printed for people as one line of counts (`Report.summaryLine`) or as the list of its
failures (`Report.failureList`). The list has one line for the label, and for every failure a title
line and, when the test has an error, one line for that error: the first line of its message that is
not blank. It is empty when nothing failed.
-/

namespace TestReport

/-- A duration in milliseconds as seconds with one decimal. -/
def secondsText (millis : UInt64) : String :=
  let tenths := ((Binary64.ofFloat? (millis.toFloat / 1000.0)).map (·.scaled 1)).getD 0
  toString (tenths / 10) ++ "." ++ toString (tenths % 10) ++ "s"

namespace Report

/-- A result in one line. -/
def summaryLine (r : Report) (label : String) : String :=
  let s := r.summary
  let icon := if s.success then Status.passed.icon else Status.failed.icon
  let head := icon ++ " " ++ r.metadata.framework ++ " " ++ label ++ ": "
  if r.metadata.parseError then head ++ "could not parse output"
  else
    head ++ toString s.totalTests.toNat ++ " tests, " ++ toString s.passedTests.toNat ++
      " passed, " ++ toString s.failedTests.toNat ++ " failed, " ++
      toString s.skippedTests.toNat ++ " skipped  " ++ secondsText s.duration

/-- The line that names a failure. -/
def titleLine (t : LocatedTest) : String :=
  "  " ++ t.test.status.icon ++ " " ++ t.suiteName ++ " › " ++ t.test.name ++
    if t.filePath.isEmpty then "" else "  (" ++ t.filePath ++ ")"

/-- The line that says why a test failed. -/
def errorLine (f : Failure) : String :=
  let line := String.ofList (Text.firstLine f.message.toList)
  if line.isEmpty then "      " ++ f.kind else "      " ++ f.kind ++ ": " ++ line

/-- The lines about one failure. -/
def failureLines (t : LocatedTest) : List String :=
  titleLine t :: (t.test.error.map errorLine).toList

/-- The failures of a result. -/
def failureList (r : Report) (label : String) : String :=
  let failed := r.failedTests
  if failed.isEmpty then ""
  else String.join (((label ++ ":") :: failed.flatMap failureLines).map (· ++ "\n"))

end Report

end TestReport
