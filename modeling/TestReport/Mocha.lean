import TestReport.Extract
import TestReport.Framework
import TestReport.Options
import TestReport.Report.Wire
import TestReport.Suites
import TestReport.Text.Path
import TestReport.TimeStamp

/-!
# Mocha reports

Mocha writes one object with statistics and with a list of entries for each of passed, failed and
pending tests. It flattens the tree of suites into titles, so the suite of an entry is guessed from
its title, and an entry whose title is one word belongs to its file.

`MochaReport` is the report as it is written, `MochaEntry.place` puts one entry where it belongs,
and `MochaReport.toReport` is the whole result. The statistics count where they are given; where
they are not, the suites are counted.
-/

namespace TestReport

open Json (Shape)

/-! ## The report as written -/

/-- What an entry says about a failure. -/
structure MochaError where
  message : Option String := none
  stack : Option String := none
  name : Option String := none
  diff : Option String := none
  actual : Option Json := none
  expected : Option Json := none

/-- An entry of a list of tests. -/
structure MochaEntry where
  title : String
  fullTitle : String
  file : Option String
  duration : Option Float
  err : Option MochaError

/-- The statistics of a run. -/
structure MochaStats where
  tests : Option UInt64 := none
  passes : Option UInt64 := none
  pending : Option UInt64 := none
  failures : Option UInt64 := none
  start : Option TimeStamp := none
  finish : Option TimeStamp := none
  duration : Option Float := none

/-- A report. -/
structure MochaReport where
  stats : MochaStats
  /-- The statistics as they stand in the report. -/
  rawStats : Json
  passes : List MochaEntry
  failures : List MochaEntry
  pending : List MochaEntry
  version : Option String

/-! ## Reading -/

namespace Json.Shape

/-- The shape of what an entry says about a failure. -/
def mochaError : Shape :=
  record { title := "struct MochaError" }
    [field "message" optionalString, field "stack" optionalString, field "name" optionalString,
      field "diff" optionalString, field "actual" (optional any), field "expected" (optional any)]

/-- The shape of an entry. -/
def mochaEntry : Shape :=
  record { title := "struct MochaTest" }
    [field "title" string, field "fullTitle" string, field "file" optionalString,
      field "duration" optionalFloat, field "err" (optional mochaError)]

/-- The shape of statistics. -/
def mochaStats : Shape :=
  record { title := "struct MochaStats" }
    [field "tests" optionalCount, field "passes" optionalCount, field "pending" optionalCount,
      field "failures" optionalCount, field "start" optionalTime, field "end" optionalTime,
      field "duration" optionalFloat]

/-- The shape of a Mocha report. -/
def mochaReport : Shape :=
  record { title := "struct MochaReport" }
    [field "stats" (optional mochaStats), field "passes" (list mochaEntry),
      field "failures" (list mochaEntry), field "pending" (list mochaEntry),
      field "version" optionalString]

end Json.Shape

/-- What a plain value says about a failure. -/
def MochaError.ofPlain (v : Json) : MochaError where
  message := v.stringAt? "message"
  stack := v.stringAt? "stack"
  name := v.stringAt? "name"
  diff := v.stringAt? "diff"
  actual := v.present? "actual"
  expected := v.present? "expected"

/-- The entry that a plain value holds. -/
def MochaEntry.ofPlain (v : Json) : MochaEntry where
  title := v.stringAt "title" ""
  fullTitle := v.stringAt "fullTitle" ""
  file := v.stringAt? "file"
  duration := v.floatAt? "duration"
  err := (v.present? "err").map MochaError.ofPlain

/-- The statistics that a plain value holds. -/
def MochaStats.ofPlain (v : Json) : MochaStats where
  tests := v.wordAt? "tests"
  passes := v.wordAt? "passes"
  pending := v.wordAt? "pending"
  failures := v.wordAt? "failures"
  start := v.timeAt? "start"
  finish := v.timeAt? "end"
  duration := v.floatAt? "duration"

/-- The report that the members of an object are. -/
def MochaReport.ofMembers? (members : List (String × Json)) :
    Except ExtractError MochaReport :=
  match Shape.mochaReport.read (.obj members) with
  | .error reason => .error (.undecodable "mocha" reason.error)
  | .ok v => .ok
      { stats := .ofPlain (v.recordAt "stats")
        rawStats := (members.lookup "stats").getD .null
        passes := (v.itemsAt "passes").map .ofPlain
        failures := (v.itemsAt "failures").map .ofPlain
        pending := (v.itemsAt "pending").map .ofPlain
        version := v.stringAt? "version" }

/-! ## Tests and suites -/

namespace MochaEntry

/-- The title of an entry with the titles of its suites. -/
def wholeTitle (e : MochaEntry) : String :=
  if e.fullTitle.isEmpty then e.title else e.fullTitle

/-- The error of a failed entry. -/
def failure (e : MochaEntry) : Failure :=
  let err := e.err.getD {}
  { message := err.message.getD ""
    stack := err.stack.getD ""
    kind := err.name.getD "Error"
    diff := err.diff
    actual := err.actual
    expected := err.expected }

/-- The file of an entry. -/
def path (e : MochaEntry) (options : Options) : Option String :=
  e.file.map (Text.normalizePath options.normalizeFilePaths)

/-- The test that an entry of the list for `status` is. -/
def test (e : MochaEntry) (status : Status) (options : Options) : Test where
  id := e.wholeTitle
  name :=
    if e.title.isEmpty then String.ofList (Text.splitTitle e.wholeTitle.toList).2 else e.title
  fullName := e.wholeTitle
  status := status
  duration := wholeMillis e.duration
  filePath := e.path options
  error := if status = .failed then some e.failure else none

/-- The name of the suite of an entry: the front of its title, or its file, or a name for tests that
have neither. -/
def suiteName (e : MochaEntry) (options : Options) : String :=
  let front := String.ofList (Text.splitTitle e.wholeTitle.toList).1
  let file := (e.path options).getD ""
  if !front.isEmpty then front
  else if !file.isEmpty then file
  else "(root)"

/-- Some suites with the test of an entry put in. -/
def place (e : MochaEntry) (status : Status) (options : Options) (suites : List Suite) :
    List Suite :=
  Suites.push suites (e.suiteName options) ((e.path options).getD "") (e.test status options)

end MochaEntry

/-! ## The result -/

namespace MochaReport

/-- All entries with their outcomes, in the order in which they are put into suites. -/
def entries (r : MochaReport) : List (MochaEntry × Status) :=
  r.passes.map (·, .passed) ++ r.failures.map (·, .failed) ++ r.pending.map (·, .skipped)

/-- The suites of a report. -/
def suites (r : MochaReport) (options : Options) : List Suite :=
  r.entries.foldl (fun suites e => e.1.place e.2 options suites) []

/-- The summary of a report with the given suites. -/
def summary (r : MochaReport) (suites : List Suite) (now : Instant) : Summary :=
  let tally := Summary.tally suites
  let (startTime, endTime) := TimeStamp.window r.stats.start r.stats.finish now
  let failed := r.stats.failures.getD tally.failedTests
  { success := failed == 0
    totalTests := r.stats.tests.getD tally.totalTests
    passedTests := r.stats.passes.getD tally.passedTests
    failedTests := failed
    skippedTests := r.stats.pending.getD tally.skippedTests
    duration := r.stats.duration.elim tally.duration fun d => wholeMillis (some d)
    startTime := startTime
    endTime := endTime }

/-- The result of a report. -/
def toReport (r : MochaReport) (environment : Environment) (options : Options) (now : Instant) :
    Report where
  summary := r.summary (r.suites options) now
  suites := r.suites options
  metadata :=
    (Metadata.forRun "mocha" r.version environment).insertNamespace "mocha"
      (.obj [("stats", r.rawStats)])

/-- The result of an output that holds a Mocha report. -/
def decode (environment : Environment) (options : Options) (output : String) (now : Instant) :
    Except ExtractError Report := do
  let members ← findObject output.toList "mocha" "stats"
  return (← ofMembers? members).toReport environment options now

end MochaReport

end TestReport
