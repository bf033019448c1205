import TestReport.Mocha
import TestReport.Text.ErrorKind
import TestReport.Text.Escape
import TestReport.Text.Lines

/-!
# Jest reports

Jest writes one object with counters and with the results of each file. Every assertion names the
suites around it, so suites follow that hierarchy. A file that could not be run has a message and no
assertions, and gets a failed test of its own.

There are two forms of report. The stock form has its counters at the top level. The bridge form has
them in an object under `aggregated`, from where they are lifted, so that both read alike
(`locateReport`). Two fields of a file go by different names in the two forms.

The counters count where they are given, with the files that could not be run on top; where they are
not, the suites are counted. The run ends when the last of its files does.
-/

namespace TestReport

open Json (Shape)

/-! ## The report as written -/

/-- One assertion: a test with the suites around it. -/
structure JestAssertion where
  ancestorTitles : List String
  title : String
  fullName : String
  status : String
  timedOut : Option Bool
  duration : Option Float
  failureMessages : List String
  failureDetails : List Json

/-- A piece of captured console output. -/
structure JestConsoleEntry where
  message : Option Json
  kind : Option String
  origin : Option String

/-- The results of a file. -/
structure JestFile where
  name : String
  status : String
  message : Option String
  failureMessage : Option String
  endTime : Option TimeStamp
  perfEnd : Option TimeStamp
  console : List JestConsoleEntry
  assertions : List JestAssertion

/-- A report. -/
structure JestReport where
  totalTests : Option UInt64
  passedTests : Option UInt64
  failedTests : Option UInt64
  pendingTests : Option UInt64
  todoTests : Option UInt64
  totalSuites : Option UInt64
  passedSuites : Option UInt64
  failedSuites : Option UInt64
  runtimeErrorSuites : Option UInt64
  startTime : Option TimeStamp
  runTime : Option Float
  success : Option Bool
  wasInterrupted : Option Bool
  version : Option String
  files : List JestFile

/-! ## Reading -/

namespace Json.Shape

/-- The shape of an assertion. -/
def jestAssertion : Shape :=
  record { title := "struct JestAssertion" }
    [field "ancestorTitles" (list string), field "title" string, field "fullName" string,
      field "status" string, field "timedOut" (optional flag), field "duration" optionalFloat,
      field "failureMessages" (list string), field "failureDetails" (optional (list any))]

/-- The shape of a piece of captured console output. -/
def jestConsoleEntry : Shape :=
  record { title := "struct JestConsoleEntry" }
    [field "message" (optional any), field "type" optionalString, field "origin" optionalString]

/-- The shape of the timing of a file. -/
def jestPerfStats : Shape :=
  record { title := "struct JestPerfStats" } [field "end" optionalTime]

/-- The shape of the results of a file. -/
def jestFile : Shape :=
  record { title := "struct JestFileResult" }
    [({ name := "name", otherName := some "testFilePath" }, string), field "status" string,
      field "message" optionalString, field "failureMessage" optionalString,
      field "endTime" optionalTime, field "perfStats" (optional jestPerfStats),
      field "console" (optional (list jestConsoleEntry)),
      ({ name := "assertionResults", otherName := some "testResults" }, list jestAssertion)]

/-- The shape of a Jest report. -/
def jestReport : Shape :=
  record { title := "struct JestReport" }
    [field "numTotalTests" optionalCount, field "numPassedTests" optionalCount,
      field "numFailedTests" optionalCount, field "numPendingTests" optionalCount,
      field "numTodoTests" optionalCount, field "numTotalTestSuites" optionalCount,
      field "numPassedTestSuites" optionalCount, field "numFailedTestSuites" optionalCount,
      field "numRuntimeErrorTestSuites" optionalCount, field "startTime" optionalTime,
      field "runTimeMs" optionalFloat, field "success" (optional flag),
      field "wasInterrupted" (optional flag), field "version" optionalString,
      field "testResults" (list jestFile)]

end Json.Shape

/-- The assertion that a plain value holds. -/
def JestAssertion.ofPlain (v : Json) : JestAssertion where
  ancestorTitles := (v.itemsAt "ancestorTitles").filterMap Json.str?
  title := v.stringAt "title" ""
  fullName := v.stringAt "fullName" ""
  status := v.stringAt "status" ""
  timedOut := v.flagAt? "timedOut"
  duration := v.floatAt? "duration"
  failureMessages := (v.itemsAt "failureMessages").filterMap Json.str?
  failureDetails := v.itemsAt "failureDetails"

/-- The piece of console output that a plain value holds. -/
def JestConsoleEntry.ofPlain (v : Json) : JestConsoleEntry where
  message := v.present? "message"
  kind := v.stringAt? "type"
  origin := v.stringAt? "origin"

/-- The results of a file that a plain value holds. -/
def JestFile.ofPlain (v : Json) : JestFile where
  name := v.stringAt "name" ""
  status := v.stringAt "status" ""
  message := v.stringAt? "message"
  failureMessage := v.stringAt? "failureMessage"
  endTime := v.timeAt? "endTime"
  perfEnd := (v.recordAt "perfStats").timeAt? "end"
  console := (v.itemsAt "console").map .ofPlain
  assertions := (v.itemsAt "assertionResults").map .ofPlain

/-- The report that a plain value holds. -/
def JestReport.ofPlain (v : Json) : JestReport where
  totalTests := v.wordAt? "numTotalTests"
  passedTests := v.wordAt? "numPassedTests"
  failedTests := v.wordAt? "numFailedTests"
  pendingTests := v.wordAt? "numPendingTests"
  todoTests := v.wordAt? "numTodoTests"
  totalSuites := v.wordAt? "numTotalTestSuites"
  passedSuites := v.wordAt? "numPassedTestSuites"
  failedSuites := v.wordAt? "numFailedTestSuites"
  runtimeErrorSuites := v.wordAt? "numRuntimeErrorTestSuites"
  startTime := v.timeAt? "startTime"
  runTime := v.floatAt? "runTimeMs"
  success := v.flagAt? "success"
  wasInterrupted := v.flagAt? "wasInterrupted"
  version := v.stringAt? "version"
  files := (v.itemsAt "testResults").map .ofPlain

/-- The report that the members of an object are. -/
def JestReport.ofMembers? (members : List (String × Json)) : Except ExtractError JestReport :=
  match Shape.jestReport.read (.obj members) with
  | .error reason => .error (.undecodable "jest" reason.error)
  | .ok v => .ok (.ofPlain v)

/-- Members with those of the object under a key put beside them; what is there already stays. -/
def liftMembers (key : String) (members : List (String × Json)) : Option (List (String × Json)) :=
  ((members.lookup key).bind Json.members?).map fun inner =>
    inner.foldl
      (fun ms m => if (ms.lookup m.1).isSome then ms else Json.insert m.1 m.2 ms)
      (members.filter (·.1 != key))

/-- The members of the report in an output, whose counters may be nested. -/
def locateReport (output : List Char) : Except ExtractError (List (String × Json)) :=
  match findObject output "jest" "aggregated" with
  | .ok members =>
    match liftMembers "aggregated" members with
    | some lifted => .ok lifted
    | none => findObject output "jest" "numTotalTests"
  | .error (.noPayload ..) => findObject output "jest" "numTotalTests"
  | .error e => .error e

/-! ## Tests -/

namespace JestAssertion

/-- The name of an assertion with the names of the suites around it. -/
def wholeName (a : JestAssertion) : String :=
  if a.fullName.isEmpty then " ".intercalate (a.ancestorTitles ++ [a.title]) else a.fullName

/-- The outcome of an assertion; running out of time shows in a flag or in a failure message. -/
def outcome (a : JestAssertion) : Status :=
  let status := Status.ofNative a.status
  let exceeded := a.failureMessages.any fun m => Text.occursIn "Exceeded timeout of".toList m.toList
  if a.timedOut = some true ∨ status = .failed ∧ exceeded then .timedOut else status

/-- The error of a failed assertion. -/
def failure (a : JestAssertion) : Failure :=
  let messages := a.failureMessages.map fun m => Text.stripEscapes m.toList
  let first := Text.firstLine (messages.headD [])
  let matcher := a.failureDetails.findSome? (·.get? "matcherResult")
  { message := String.ofList first
    stack := "\n".intercalate (messages.map String.ofList)
    kind := Text.errorKind first
    actual := matcher.bind (·.get? "actual")
    expected := matcher.bind (·.get? "expected") }

/-- The test that an assertion of a file is. -/
def test (a : JestAssertion) (path : String) : Test where
  id := path ++ " " ++ a.wholeName
  name := a.title
  fullName := a.wholeName
  status := a.outcome
  duration := wholeMillis a.duration
  filePath := some path
  error := if a.outcome.isFailure then some a.failure else none

/-- The name of the suite of an assertion: the suites around it, or else its file. -/
def suiteName (a : JestAssertion) (path : String) : String :=
  if a.ancestorTitles.isEmpty then path else " ".intercalate a.ancestorTitles

end JestAssertion

namespace JestFile

/-- The path of a file. -/
def path (f : JestFile) (options : Options) : String :=
  Text.normalizePath options.normalizeFilePaths f.name

/-- Why a file could not be run, if it could not: it failed with a message but no assertions. -/
def runError? (f : JestFile) : Option String :=
  if f.assertions.isEmpty ∧ f.status = "failed" then
    ([f.message, f.failureMessage].filterMap id).find? fun m => !Text.isAllBlank m.toList
  else none

/-- The test that stands for a file that could not be run. -/
def runFailure (path message : String) : Test :=
  let clean := Text.stripEscapes message.toList
  let first := Text.firstLine clean
  { id := path ++ " Test suite failed to run"
    name := "Test suite failed to run"
    fullName := path ++ " Test suite failed to run"
    status := .failed
    filePath := some path
    error := some
      { message := String.ofList first
        stack := String.ofList clean
        kind := Text.errorKind first } }

/-- The tests of a file with the names of their suites. -/
def tests (f : JestFile) (options : Options) : List (String × Test) :=
  let path := f.path options
  f.assertions.map (fun a => (a.suiteName path, a.test path)) ++
    (f.runError?.map fun message => (path, runFailure path message)).toList

/-- Some suites with the tests of a file put in. -/
def place (f : JestFile) (options : Options) (suites : List Suite) : List Suite :=
  (f.tests options).foldl (fun suites t => Suites.push suites t.1 (f.path options) t.2) suites

/-- When a file ended. -/
def finished? (f : JestFile) : Option Instant :=
  (f.perfEnd.or f.endTime).bind TimeStamp.instant?

/-- The console output of a file as values. -/
def consoleValues (f : JestFile) (options : Options) : List Json :=
  f.console.map fun e => .obj
    [("file", .str (f.path options)), ("message", e.message.getD .null),
      ("origin", Json.ofOption .str e.origin), ("type", Json.ofOption .str e.kind)]

end JestFile

/-! ## The result -/

namespace JestReport

/-- The suites of a report. -/
def suites (r : JestReport) (options : Options) : List Suite :=
  r.files.foldl (fun suites f => f.place options suites) []

/-- How many files could not be run. -/
def runErrors (r : JestReport) : UInt64 :=
  UInt64.ofNat (r.files.countP fun f => f.runError?.isSome)

/-- The later of two instants, the first of them if both are the same. -/
def later (latest : Option Instant) (candidate : Instant) : Instant :=
  match latest with
  | some t => if t.before candidate then candidate else t
  | none => candidate

/-- When the last file of a report ended. -/
def latestEnd? (r : JestReport) : Option Instant :=
  (r.files.filterMap JestFile.finished?).foldl (fun latest t => some (later latest t)) none

/-- The summary of a report with the given suites. -/
def summary (r : JestReport) (suites : List Suite) (now : Instant) : Summary :=
  let tally := Summary.tally suites
  let startTime := (r.startTime.bind TimeStamp.instant?).getD now
  let endTime := r.latestEnd?.getD now
  let failed := r.failedTests.elim tally.failedTests (addSat · r.runErrors)
  { success := failed == 0
    totalTests := r.totalTests.elim tally.totalTests (addSat · r.runErrors)
    passedTests := r.passedTests.getD tally.passedTests
    failedTests := failed
    skippedTests :=
      if r.pendingTests.isNone ∧ r.todoTests.isNone then tally.skippedTests
      else addSat (r.pendingTests.getD 0) (r.todoTests.getD 0)
    duration :=
      if r.startTime.isSome ∧ r.latestEnd?.isSome then
        wordOfNat (endTime.millisSince startTime).toNat
      else r.runTime.elim tally.duration fun d => wholeMillis (some d)
    startTime := startTime
    endTime := endTime }

/-- The console output of all files, as far as it is to be kept. -/
def consoleValues (r : JestReport) (options : Options) : List Json :=
  if options.includeConsoleOutput then r.files.flatMap (·.consoleValues options) else []

/-- What only Jest reports. -/
def details (r : JestReport) (options : Options) : Json :=
  let console := r.consoleValues options
  .obj (optionalMember "console" (if console.isEmpty then none else some (.arr console)) ++
    [("numFailedTestSuites", Json.ofOption wordJson r.failedSuites),
      ("numPassedTestSuites", Json.ofOption wordJson r.passedSuites),
      ("numRuntimeErrorTestSuites", Json.ofOption wordJson r.runtimeErrorSuites),
      ("numTodoTests", Json.ofOption wordJson r.todoTests),
      ("numTotalTestSuites", Json.ofOption wordJson r.totalSuites),
      ("success", Json.ofOption .bool r.success),
      ("wasInterrupted", Json.ofOption .bool r.wasInterrupted)])

/-- The result of a report. -/
def toReport (r : JestReport) (coverage : Option Coverage) (environment : Environment)
    (options : Options) (now : Instant) : Report where
  summary := r.summary (r.suites options) now
  suites := r.suites options
  coverage := coverage
  metadata :=
    (Metadata.forRun "jest" r.version environment).insertNamespace "jest" (r.details options)

/-- The result of an output that holds a Jest report. -/
def decode (environment : Environment) (options : Options) (output : String) (now : Instant) :
    Except ExtractError Report := do
  let members ← locateReport output.toList
  let coverage := (members.lookup "coverageMap").bind Coverage.ofMap?
  return (← ofMembers? members).toReport coverage environment options now

end JestReport

end TestReport
