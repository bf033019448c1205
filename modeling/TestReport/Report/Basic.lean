import TestReport.Coverage
import TestReport.Instant.Basic
import TestReport.Number.Saturating
import TestReport.Status
import TestReport.Text.Blank

/-!
# Results of test runs

The one form into which every framework's report is brought: a summary of counts, the suites with
their tests, the coverage if the report had any, and metadata. The default of every record is what a
result reads as when that record is left out of it.

The metadata of a result have fields of their own and *namespaces*, in which a framework keeps what
only it reports. A namespace may not go by the name of a field; `Metadata.insertNamespace?` refuses
such a name, and nothing else adds a namespace to metadata.
-/

namespace TestReport

/-! ## Tests and suites -/

/-- Why a test failed. -/
structure Failure where
  message : String := ""
  stack : String := ""
  kind : String := "Error"
  diff : Option String := none
  actual : Option Json := none
  expected : Option Json := none
deriving DecidableEq

/-- One test. -/
structure Test where
  id : String := ""
  name : String := ""
  fullName : String := ""
  status : Status := .passed
  /-- Milliseconds. -/
  duration : UInt64 := 0
  filePath : Option String := none
  error : Option Failure := none
deriving DecidableEq

/-- The tests of one file or one group. -/
structure Suite where
  name : String := ""
  filePath : String := ""
  /-- Milliseconds of all tests together. -/
  duration : UInt64 := 0
  status : SuiteStatus := .passed
  tests : List Test := []
deriving DecidableEq

/-! ## The summary -/

/-- The counts of a run. -/
structure Summary where
  success : Bool := false
  totalTests : UInt64 := 0
  passedTests : UInt64 := 0
  failedTests : UInt64 := 0
  skippedTests : UInt64 := 0
  /-- Milliseconds. -/
  duration : UInt64 := 0
  startTime : Instant := Instant.epoch
  endTime : Instant := Instant.epoch
deriving DecidableEq

/-- All tests of some suites, in order. -/
def allTests (suites : List Suite) : List Test :=
  suites.flatMap (·.tests)

/-- The number of tests in a list that fall into a class. -/
def countTests (p : Status → Bool) (tests : List Test) : UInt64 :=
  UInt64.ofNat (tests.countP fun t => p t.status)

/-- The counts that suites show by themselves. -/
def Summary.tally (suites : List Suite) : Summary :=
  let tests := allTests suites
  let failed := countTests Status.isFailure tests
  { success := failed == 0
    totalTests := UInt64.ofNat tests.length
    passedTests := countTests (fun s => !s.isFailure && !s.isSkipped) tests
    failedTests := failed
    skippedTests := countTests Status.isSkipped tests
    duration := sumSat (tests.map (·.duration)) }

/-! ## Metadata -/

/-- The host on which a report was read. -/
structure Environment where
  runtime : String := ""
  platform : String := ""
  arch : String := ""
deriving DecidableEq

/-- The version of the form of results. -/
def schemaVersion : UInt32 := 1

/-- The keys of the fields of metadata, which no namespace may have. -/
def metadataKeys : List String :=
  ["framework", "version", "schemaVersion", "environment", "parseError", "rawOutput"]

/-- What is said about a result as a whole. -/
structure Metadata where
  framework : String := ""
  version : String := "unknown"
  schemaVersion : UInt32 := TestReport.schemaVersion
  environment : Environment := {}
  parseError : Bool := false
  rawOutput : Option String := none
  /-- What a framework alone reports, by key and in the order of keys. -/
  namespaces : List (String × Json) := []
deriving DecidableEq

namespace Metadata

/-- The metadata of a run; a version that is blank counts as unknown. -/
def forRun (framework : String) (version : Option String) (environment : Environment) :
    Metadata where
  framework := framework
  version := (version.filter fun v => !Text.isAllBlank v.toList).getD "unknown"
  environment := environment

/-- The metadata with a namespace set; nothing when the key is that of a field. -/
def insertNamespace? (m : Metadata) (key : String) (value : Json) : Option Metadata :=
  if metadataKeys.contains key then none
  else some { m with namespaces := Json.insert key value m.namespaces }

/-- The metadata with a namespace set, unless the key is that of a field. -/
def insertNamespace (m : Metadata) (key : String) (value : Json) : Metadata :=
  (m.insertNamespace? key value).getD m

/-- What is kept under a key. -/
def namespace? (m : Metadata) (key : String) : Option Json :=
  m.namespaces.lookup key

end Metadata

/-! ## Results -/

/-- The result of a run. -/
structure Report where
  summary : Summary := {}
  suites : List Suite := []
  coverage : Option Coverage := none
  metadata : Metadata := {}
deriving DecidableEq

end TestReport
