import TestReport.Instant.Text
import TestReport.Json.Plain
import TestReport.Json.Scan
import TestReport.Report.Basic

/-!
# Results as JSON

Results are exchanged as JSON values. Writing (`Report.toJson`) gives every object with its members
sorted by key; optional fields that are empty are left out, and so is a parse error that did not
happen. The namespaces of metadata stand among its fields.

Reading (`Report.ofJson?`) takes a value to plain form by the shape of results and then builds the
result out of it. No field has to be there. In plain form a field either is absent or has its kind,
so the building functions `Report.ofPlain` and its parts look fields up and never fail.
-/

namespace TestReport

open Json (Shape Vocabulary Mismatch)

/-! ## Writing -/

/-- A member that is left out when there is nothing to write. -/
def optionalMember (key : String) (value : Option Json) : List (String × Json) :=
  match value with
  | some v => [(key, v)]
  | none => []

/-- A word as a value. -/
def wordJson (n : UInt64) : Json :=
  .ofNat n.toNat

/-- A float as a value; one that is not finite is no JSON number. -/
def floatJson (x : Float) : Json :=
  if x.isFinite then .num (.float x) else .null

/-- An instant as a value. -/
def Instant.toJson (t : Instant) : Json :=
  .str t.text

/-- A count of coverage as a value. -/
def Metric.toJson (m : Metric) : Json :=
  .obj [("covered", wordJson m.covered), ("pct", floatJson m.percent), ("total", wordJson m.total)]

/-- Coverage as a value. -/
def Coverage.toJson (c : Coverage) : Json :=
  .obj [("branches", c.branches.toJson), ("functions", c.functions.toJson),
    ("lines", c.lines.toJson), ("statements", c.statements.toJson)]

/-- A failure as a value. -/
def Failure.toJson (f : Failure) : Json :=
  .obj (optionalMember "actual" f.actual ++ optionalMember "diff" (f.diff.map .str) ++
    optionalMember "expected" f.expected ++
    [("message", .str f.message), ("stack", .str f.stack), ("type", .str f.kind)])

/-- The members of a test, with those of its list entry in their places. -/
def Test.members (t : Test) (filePath suiteName : Option String) : List (String × Json) :=
  ("duration", wordJson t.duration) :: optionalMember "error" (t.error.map Failure.toJson) ++
    optionalMember "filePath" (filePath.map .str) ++
    [("fullName", .str t.fullName), ("id", .str t.id), ("name", .str t.name),
      ("status", .str t.status.name)] ++
    optionalMember "suiteName" (suiteName.map .str)

/-- A test as a value. -/
def Test.toJson (t : Test) : Json :=
  .obj (t.members t.filePath none)

/-- A suite as a value. -/
def Suite.toJson (s : Suite) : Json :=
  .obj [("duration", wordJson s.duration), ("filePath", .str s.filePath), ("name", .str s.name),
    ("status", .str s.status.name), ("tests", .arr (s.tests.map Test.toJson))]

/-- A summary as a value. -/
def Summary.toJson (s : Summary) : Json :=
  .obj [("duration", wordJson s.duration), ("endTime", s.endTime.toJson),
    ("failedTests", wordJson s.failedTests), ("passedTests", wordJson s.passedTests),
    ("skippedTests", wordJson s.skippedTests), ("startTime", s.startTime.toJson),
    ("success", .bool s.success), ("totalTests", wordJson s.totalTests)]

/-- A host as a value. -/
def Environment.toJson (e : Environment) : Json :=
  .obj [("arch", .str e.arch), ("platform", .str e.platform), ("runtime", .str e.runtime)]

/-- The fields of metadata as members. -/
def Metadata.fieldMembers (m : Metadata) : List (String × Json) :=
  ("environment", m.environment.toJson) :: ("framework", .str m.framework) ::
    optionalMember "parseError" (if m.parseError then some (.bool true) else none) ++
    optionalMember "rawOutput" (m.rawOutput.map .str) ++
    [("schemaVersion", .ofNat m.schemaVersion.toNat), ("version", .str m.version)]

/-- Metadata as a value: the fields, with the namespaces among them. -/
def Metadata.toJson (m : Metadata) : Json :=
  .obj (m.namespaces.foldl (fun ms n => Json.insert n.1 n.2 ms) m.fieldMembers)

/-- A result as a value. -/
def Report.toJson (r : Report) : Json :=
  .obj (optionalMember "coverage" (r.coverage.map Coverage.toJson) ++
    [("metadata", r.metadata.toJson), ("summary", r.summary.toJson),
      ("testSuites", .arr (r.suites.map Suite.toJson))])

/-! ## Shapes -/

/-- The words for the outcome of a test; `pending` is another word for skipped. -/
def Status.vocabulary : Vocabulary where
  spellings := [("passed", "passed"), ("failed", "failed"), ("skipped", "skipped"),
    ("pending", "skipped"), ("todo", "todo"), ("timedOut", "timedOut")]
  known := ["passed", "failed", "pending", "skipped", "todo", "timedOut"]

/-- The words for the outcome of a suite. -/
def SuiteStatus.vocabulary : Vocabulary where
  spellings := [("passed", "passed"), ("failed", "failed")]
  known := ["passed", "failed"]

/-- Why a text is not an instant, if it is not. -/
def Instant.objection (s : String) : Option String :=
  match Instant.read s with
  | .ok _ => none
  | .error e => some e.message

namespace Json.Shape

/-- An instant. -/
def instant : Shape := text "an RFC 3339 formatted date and time string" Instant.objection

/-- The shape of a count of coverage. -/
def metric : Shape :=
  record { title := "struct CoverageMetric" }
    [field "total" words, field "covered" words, field "pct" float]

/-- The shape of coverage. -/
def coverage : Shape :=
  record { title := "struct Coverage" }
    [field "statements" metric, field "branches" metric, field "functions" metric,
      field "lines" metric]

/-- The shape of a failure. -/
def failure : Shape :=
  record { title := "struct TestError" }
    [field "message" string, field "stack" string, field "type" string,
      field "diff" optionalString, field "actual" (optional any), field "expected" (optional any)]

/-- The shape of a test. -/
def test : Shape :=
  record { title := "struct Test" }
    [field "id" string, field "name" string, field "fullName" string,
      field "status" (word Status.vocabulary), field "duration" words,
      field "filePath" optionalString, field "error" (optional failure)]

/-- The shape of a suite. -/
def suite : Shape :=
  record { title := "struct Suite" }
    [field "name" string, field "filePath" string, field "duration" words,
      field "status" (word SuiteStatus.vocabulary), field "tests" (list test)]

/-- The shape of a summary. -/
def summary : Shape :=
  record { title := "struct Summary" }
    [field "success" flag, field "totalTests" count, field "passedTests" count,
      field "failedTests" count, field "skippedTests" count, field "duration" words,
      field "startTime" instant, field "endTime" instant]

/-- The shape of a host. -/
def environment : Shape :=
  record { title := "struct EnvironmentInfo" }
    [field "runtime" string, field "platform" string, field "arch" string]

/-- The shape of metadata. -/
def metadata : Shape :=
  record { title := "struct Metadata", array := .refused, keepsOthers := true }
    [field "framework" string, field "version" string, field "schemaVersion" word32,
      field "environment" environment, field "parseError" flag, field "rawOutput" optionalString]

/-- The shape of a result. -/
def report : Shape :=
  record { title := "struct CanonicalResult" }
    [field "summary" summary, field "testSuites" (list suite), field "coverage" (optional coverage),
      field "metadata" metadata]

end Json.Shape

/-! ## Building out of plain form -/

/-- The instant at a key, or the start of 1970. -/
def Json.instantAt (v : Json) (key : String) : Instant :=
  ((v.stringAt? key).bind fun s => (Instant.read s).toOption).getD Instant.epoch

/-- The count of coverage that a plain value holds. -/
def Metric.ofPlain (v : Json) : Metric where
  total := v.wordAt "total"
  covered := v.wordAt "covered"
  percent := (v.floatAt? "pct").getD 0

/-- The coverage that a plain value holds. -/
def Coverage.ofPlain (v : Json) : Coverage where
  statements := .ofPlain (v.recordAt "statements")
  branches := .ofPlain (v.recordAt "branches")
  functions := .ofPlain (v.recordAt "functions")
  lines := .ofPlain (v.recordAt "lines")

/-- The failure that a plain value holds. -/
def Failure.ofPlain (v : Json) : Failure where
  message := v.stringAt "message" ""
  stack := v.stringAt "stack" ""
  kind := v.stringAt "type" "Error"
  diff := v.stringAt? "diff"
  actual := v.present? "actual"
  expected := v.present? "expected"

/-- The outcome of a test that a plain value is. -/
def Status.ofPlain (v : Json) : Status :=
  (v.str?.bind Status.ofName?).getD .passed

/-- The outcome of a suite that a plain value is. -/
def SuiteStatus.ofPlain (v : Json) : SuiteStatus :=
  (v.str?.bind SuiteStatus.ofName?).getD .passed

/-- The test that a plain value holds. -/
def Test.ofPlain (v : Json) : Test where
  id := v.stringAt "id" ""
  name := v.stringAt "name" ""
  fullName := v.stringAt "fullName" ""
  status := ((v.get? "status").map .ofPlain).getD .passed
  duration := v.wordAt "duration"
  filePath := v.stringAt? "filePath"
  error := (v.present? "error").map Failure.ofPlain

/-- The suite that a plain value holds. -/
def Suite.ofPlain (v : Json) : Suite where
  name := v.stringAt "name" ""
  filePath := v.stringAt "filePath" ""
  duration := v.wordAt "duration"
  status := ((v.get? "status").map .ofPlain).getD .passed
  tests := (v.itemsAt "tests").map Test.ofPlain

/-- The summary that a plain value holds. -/
def Summary.ofPlain (v : Json) : Summary where
  success := (v.flagAt? "success").getD false
  totalTests := v.wordAt "totalTests"
  passedTests := v.wordAt "passedTests"
  failedTests := v.wordAt "failedTests"
  skippedTests := v.wordAt "skippedTests"
  duration := v.wordAt "duration"
  startTime := v.instantAt "startTime"
  endTime := v.instantAt "endTime"

/-- The host that a plain value holds. -/
def Environment.ofPlain (v : Json) : Environment where
  runtime := v.stringAt "runtime" ""
  platform := v.stringAt "platform" ""
  arch := v.stringAt "arch" ""

/-- The metadata that a plain value holds: what is no field is a namespace. -/
def Metadata.ofPlain (v : Json) : Metadata where
  framework := v.stringAt "framework" ""
  version := v.stringAt "version" "unknown"
  schemaVersion := ((v.get? "schemaVersion").bind Json.nat?).elim TestReport.schemaVersion .ofNat
  environment := .ofPlain (v.recordAt "environment")
  parseError := (v.flagAt? "parseError").getD false
  rawOutput := v.stringAt? "rawOutput"
  namespaces :=
    Json.sortMembers ((v.members?.getD []).filter fun m => !metadataKeys.contains m.1)

/-- The result that a plain value holds. -/
def Report.ofPlain (v : Json) : Report where
  summary := .ofPlain (v.recordAt "summary")
  suites := (v.itemsAt "testSuites").map Suite.ofPlain
  coverage := (v.present? "coverage").map Coverage.ofPlain
  metadata := .ofPlain (v.recordAt "metadata")

/-! ## Reading -/

/-- The test that a value reads as. -/
def Test.ofJson? (v : Json) : Except Mismatch Test :=
  (Shape.test.read v).map Test.ofPlain

/-- The suite that a value reads as. -/
def Suite.ofJson? (v : Json) : Except Mismatch Suite :=
  (Shape.suite.read v).map Suite.ofPlain

/-- The list of suites that a value reads as. -/
def Suites.ofJson? (v : Json) : Except Mismatch (List Suite) :=
  (Shape.suite.list.read v).map fun v => (v.items?.getD []).map Suite.ofPlain

/-- The outcome of a test that a value reads as. -/
def Status.ofJson? (v : Json) : Except Mismatch Status :=
  ((Shape.word Status.vocabulary).read v).map Status.ofPlain

/-- The outcome of a suite that a value reads as. -/
def SuiteStatus.ofJson? (v : Json) : Except Mismatch SuiteStatus :=
  ((Shape.word SuiteStatus.vocabulary).read v).map SuiteStatus.ofPlain

/-- The metadata that a value reads as. -/
def Metadata.ofJson? (v : Json) : Except Mismatch Metadata :=
  (Shape.metadata.read v).map Metadata.ofPlain

/-- The metadata that a text reads as. -/
def Metadata.ofText? (text : String) : Except Json.ReadError Metadata :=
  (Shape.metadata.scanText text).map Metadata.ofPlain

/-- The result that a value reads as. -/
def Report.ofJson? (v : Json) : Except Mismatch Report :=
  (Shape.report.read v).map Report.ofPlain

/-- The result that a text reads as. -/
def Report.ofText? (text : String) : Except Json.ReadError Report :=
  (Shape.report.scanText text).map Report.ofPlain

end TestReport
