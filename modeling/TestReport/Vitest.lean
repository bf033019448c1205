import TestReport.Extract
import TestReport.Framework
import TestReport.Jest
import TestReport.Json.Tagged

/-!
# Vitest event streams

Vitest writes one event per line, each a JSON object with its kind under `type`. Lines that are no
events are noise. `VitestEvent.ofLine?` reads a line, `VitestRun.apply` takes one event into
account, and the result is that of the run after all events.

A test may run more than once; the last event about it counts. There is one exception: when only
some tests are selected, the others are reported as skipped, so an event that says skipped does not
replace an outcome that is passed or failed.

The stream holds no times. A run ends when it is read and starts as much earlier as it took.
-/

namespace TestReport

open Json (Shape Slot Layout ReadError)

/-! ## Events -/

/-- What an event says about a failure. -/
structure VitestError where
  name : Option String := none
  message : Option String := none
  expected : Option String := none
  actual : Option String := none
  diff : Option String := none
  stack : Option String := none

/-- A test that has finished. -/
structure VitestOutcome where
  file : String
  name : String
  state : String
  duration : Option Float
  error : Option VitestError

/-- The counts with which a run ends. -/
structure VitestTotals where
  total : UInt64
  passed : UInt64
  failed : UInt64
  skipped : UInt64
  duration : UInt64

/-- An event of a run. -/
inductive VitestEvent
  | runStarted (version : Option String)
  | testFinished (outcome : VitestOutcome)
  | consoleLog (file content : String)
  | runFinished (totals : VitestTotals)
  /-- An event that has no part in the result. -/
  | progress

namespace Json.Shape

/-- A field that has to be there. -/
def requiredField (name : String) (shape : Shape) : Slot × Shape :=
  ({ name := name, required := true }, shape)

/-- The shape of what an event says about a failure. -/
def vitestError : Shape :=
  record { title := "struct VitestError", array := .complete }
    [field "name" optionalString, field "message" optionalString, field "expected" optionalString,
      field "actual" optionalString, field "diff" optionalString, field "stack" optionalString]

/-- The shape of a place in a file. -/
def vitestLocation : Shape :=
  record { title := "struct VitestLocation", array := .complete }
    [requiredField "line" word32, requiredField "column" word32]

/-- The shape of an event of a kind that messages call by `title`. -/
def vitestVariant (title : String) (fields : List (Slot × Shape)) : Shape :=
  record { title := "struct variant VitestEvent::" ++ title, array := .complete } fields

/-- The kinds of events with their shapes. -/
def vitestEvents : List (String × Shape) :=
  [("run-started", vitestVariant "RunStarted"
      [field "total" optionalCount, field "version" optionalString]),
    ("tests-collected", vitestVariant "TestsCollected"
      [requiredField "file" string, requiredField "count" count]),
    ("file-started", vitestVariant "FileStarted" [requiredField "file" string]),
    ("test-started", vitestVariant "TestStarted"
      [requiredField "file" string, requiredField "name" string]),
    ("test-finished", vitestVariant "TestFinished"
      [requiredField "file" string, requiredField "name" string, requiredField "state" string,
        field "duration" optionalFloat, field "error" (optional vitestError),
        field "location" (optional vitestLocation)]),
    ("suite-location", vitestVariant "SuiteLocation"
      [requiredField "file" string, requiredField "name" string,
        requiredField "location" vitestLocation]),
    ("console-log", vitestVariant "ConsoleLog"
      [requiredField "file" string, requiredField "content" string]),
    ("file-finished", vitestVariant "FileFinished" [requiredField "file" string]),
    ("run-finished", vitestVariant "RunFinished"
      [requiredField "total" count, requiredField "passed" count, requiredField "failed" count,
        requiredField "skipped" count, requiredField "duration" words])]

end Json.Shape

/-- What a plain value says about a failure. -/
def VitestError.ofPlain (v : Json) : VitestError where
  name := v.stringAt? "name"
  message := v.stringAt? "message"
  expected := v.stringAt? "expected"
  actual := v.stringAt? "actual"
  diff := v.stringAt? "diff"
  stack := v.stringAt? "stack"

/-- The finished test that a plain value holds. -/
def VitestOutcome.ofPlain (v : Json) : VitestOutcome where
  file := v.stringAt "file" ""
  name := v.stringAt "name" ""
  state := v.stringAt "state" ""
  duration := v.floatAt? "duration"
  error := (v.present? "error").map VitestError.ofPlain

/-- The counts that a plain value holds. -/
def VitestTotals.ofPlain (v : Json) : VitestTotals where
  total := v.wordAt "total"
  passed := v.wordAt "passed"
  failed := v.wordAt "failed"
  skipped := v.wordAt "skipped"
  duration := v.wordAt "duration"

namespace VitestEvent

/-- The event of a kind that a plain value holds. -/
def ofPlain (kind : String) (v : Json) : VitestEvent :=
  if kind = "run-started" then runStarted (v.stringAt? "version")
  else if kind = "test-finished" then testFinished (.ofPlain v)
  else if kind = "console-log" then consoleLog (v.stringAt "file" "") (v.stringAt "content" "")
  else if kind = "run-finished" then runFinished (.ofPlain v)
  else progress

/-- The event that a tagged value is. -/
def ofTagged? (tagged : Json.Tagged) : Except Json.Mismatch VitestEvent :=
  match Shape.vitestEvents.lookup tagged.word with
  | some shape => (shape.read tagged.content).map (ofPlain tagged.word)
  | none => .error (.unknownVariant tagged.word (Shape.vitestEvents.map (·.1)))

/-- The event on a line, which has no blanks at its ends. -/
def ofLine? (line : List Char) : Except ReadError VitestEvent :=
  match Json.scanTagged "internally tagged enum VitestEvent" "type"
    (Shape.vitestEvents.map (·.1)) line with
  | .error fault => .error (fault.error line)
  | .ok (tagged, rest) =>
    match ofTagged? tagged with
    | .error reason => .error reason.error
    | .ok event =>
      match Json.readEnd rest with
      | .error fault => .error (fault.error line)
      | .ok () => .ok event

end VitestEvent

/-! ## Tests -/

/-- What stands between the names of suites and tests. -/
def nameSeparator : String := " > "

/-- A text without escape sequences. -/
def plainText (s : String) : String :=
  String.ofList (Text.stripEscapes s.toList)

/-- The error of a failed test. -/
def VitestError.failure (e : VitestError) : Failure where
  message := plainText (e.message.getD "")
  stack := plainText (e.stack.getD "")
  kind := e.name.getD "Error"
  diff := e.diff.map plainText
  actual := e.actual.map fun s => .str (plainText s)
  expected := e.expected.map fun s => .str (plainText s)

namespace VitestOutcome

/-- The file of a finished test. -/
def path (o : VitestOutcome) (options : Options) : String :=
  Text.normalizePath options.normalizeFilePaths o.file

/-- The names of the suite and of the test; the suite is the file where no suite is named. -/
def names (o : VitestOutcome) (options : Options) : String × String :=
  match Text.splitLast? nameSeparator.toList o.name.toList with
  | some (suite, test) => (String.ofList suite, String.ofList test)
  | none => (o.path options, o.name)

/-- The outcome that the state of a finished test means. -/
def status (o : VitestOutcome) : Status :=
  Status.ofNative o.state

/-- The test that has finished. -/
def test (o : VitestOutcome) (options : Options) : Test where
  id := o.path options ++ " " ++ o.name
  name := (o.names options).2
  fullName := o.name
  status := o.status
  duration := wholeMillis o.duration
  filePath := some (o.path options)
  error := if o.status.isFailure then some (o.error.getD {}).failure else none

/-- Whether a finished test was only passed over, while some suites hold its real outcome. -/
def isDominated (o : VitestOutcome) (options : Options) (suites : List Suite) : Bool :=
  o.status == .skipped &&
    (Suites.find? suites (o.names options).1 (o.path options) (o.test options).id).any fun t =>
      t.status == .passed || t.status == .failed

/-- Some suites after a test has finished. -/
def place (o : VitestOutcome) (options : Options) (suites : List Suite) : List Suite :=
  if o.isDominated options suites then suites
  else Suites.upsert suites (o.names options).1 (o.path options) (o.test options)

end VitestOutcome

/-! ## Runs -/

/-- A run as far as its events tell. -/
structure VitestRun where
  eventCount : Nat := 0
  suites : List Suite := []
  version : Option String := none
  totals : Option VitestTotals := none
  console : List Json := []

namespace VitestRun

/-- The run after one more event. -/
def apply (options : Options) (run : VitestRun) (event : VitestEvent) : VitestRun :=
  let run := { run with eventCount := run.eventCount + 1 }
  match event with
  | .runStarted version => { run with version := version.or run.version }
  | .testFinished outcome => { run with suites := outcome.place options run.suites }
  | .consoleLog file content =>
    if options.includeConsoleOutput then
      let path := Text.normalizePath options.normalizeFilePaths file
      { run with console := run.console ++ [.obj [("content", .str content), ("file", .str path)]] }
    else run
  | .runFinished totals => { run with totals := some totals }
  | .progress => run

/-- The summary of a run that ends at `now`. -/
def summary (run : VitestRun) (now : Instant) : Summary :=
  match run.totals with
  | some totals =>
    { success := totals.failed == 0
      totalTests := totals.total
      passedTests := totals.passed
      failedTests := totals.failed
      skippedTests := totals.skipped
      duration := totals.duration
      startTime := now.startedBefore totals.duration.toNat
      endTime := now }
  | none =>
    let tally := Summary.tally run.suites
    { tally with startTime := now.startedBefore tally.duration.toNat, endTime := now }

/-- The counts with which a run ended, as a value. -/
def totalsJson (totals : VitestTotals) : Json :=
  .obj [("duration", wordJson totals.duration), ("failed", wordJson totals.failed),
    ("passed", wordJson totals.passed), ("skipped", wordJson totals.skipped),
    ("total", wordJson totals.total)]

/-- What only Vitest reports. -/
def details (run : VitestRun) : Json :=
  .obj (optionalMember "console" (if run.console.isEmpty then none else some (.arr run.console)) ++
    [("events", Json.ofNat run.eventCount)] ++
    optionalMember "runFinished" (run.totals.map totalsJson))

/-- The result of a run that ends at `now`. -/
def toReport (run : VitestRun) (environment : Environment) (now : Instant) : Report where
  summary := run.summary now
  suites := run.suites
  metadata :=
    (Metadata.forRun "vitest" run.version environment).insertNamespace "vitest" run.details

/-- The lines of an output that are not blank, trimmed. -/
def eventLines (output : List Char) : List (List Char) :=
  ((Text.lines output).map Text.trim).filter (!·.isEmpty)

/-- The events of an output. -/
def events (output : List Char) : List VitestEvent :=
  (eventLines output).filterMap fun line => (VitestEvent.ofLine? line).toOption

/-- Why a line that was meant as an event is none. -/
def brokenEvent? (line : List Char) : Option ReadError :=
  match VitestEvent.ofLine? line with
  | .ok _ => none
  | .error e =>
    if line.head? = some '\x7b' ∧ Text.occursIn "\"type\"".toList line then some e else none

/-- The result of an output that holds events. -/
def decode (environment : Environment) (options : Options) (output : String) (now : Instant) :
    Except ExtractError Report :=
  match events output.toList with
  | [] =>
    match (eventLines output.toList).findSome? brokenEvent? with
    | some reason => .error (.undecodable "vitest" reason)
    | none => .error (.noPayload "vitest" "type")
  | events => .ok ((events.foldl (apply options) {}).toReport environment now)

end VitestRun

end TestReport
