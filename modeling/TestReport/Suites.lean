import TestReport.Report.Basic

/-!
# Building suites

Tests are put into suites one at a time. A suite is known by its name and its file; it is created by
its first test, and suites and tests keep the order in which they were first seen.

There are two ways to put a test in. `Suites.push` appends it to its suite. `Suites.upsert` replaces
the test of the suite that has the same id, where there is one, so that a later run of a test takes
the place of an earlier one. Both keep the suite's duration and outcome those of its tests.
-/

namespace TestReport

/-- Whether a suite is known by a name and a file. -/
def Suite.isAt (suite : Suite) (name filePath : String) : Bool :=
  suite.name == name && suite.filePath == filePath

/-- A suite with one more test. -/
def Suite.push (suite : Suite) (test : Test) : Suite :=
  { suite with
    duration := addSat suite.duration test.duration
    status := suite.status.absorb test.status
    tests := suite.tests ++ [test] }

/-- A suite with duration and outcome taken from its tests. -/
def Suite.recount (suite : Suite) : Suite :=
  { suite with
    duration := sumSat (suite.tests.map (·.duration))
    status := (suite.tests.map (·.status)).foldl SuiteStatus.absorb .passed }

/-- A list of tests in which a test replaces the first one of its id, or comes last if its id is
new. -/
def replaceTest (test : Test) : List Test → List Test
  | [] => [test]
  | t :: rest => if t.id = test.id then test :: rest else t :: replaceTest test rest

/-- A suite in which a test replaces the one of its id. -/
def Suite.upsert (suite : Suite) (test : Test) : Suite :=
  { suite with tests := replaceTest test suite.tests }.recount

/-- Changes the suite that is known by a name and a file; a new one comes last if there is none. -/
def changeSuite (name filePath : String) (change : Suite → Suite) : List Suite → List Suite
  | [] => [change { name := name, filePath := filePath }]
  | suite :: rest =>
    if suite.isAt name filePath then change suite :: rest
    else suite :: changeSuite name filePath change rest

namespace Suites

/-- The suites with a test appended to its suite. -/
def push (suites : List Suite) (name filePath : String) (test : Test) : List Suite :=
  changeSuite name filePath (·.push test) suites

/-- The suites with a test in place of the one of its id in its suite. -/
def upsert (suites : List Suite) (name filePath : String) (test : Test) : List Suite :=
  changeSuite name filePath (·.upsert test) suites

/-- The position of the suite that is known by a name and a file. -/
def index? (suites : List Suite) (name filePath : String) : Option Nat :=
  suites.findIdx? (·.isAt name filePath)

/-- The test with an id in the suite that is known by a name and a file. -/
def find? (suites : List Suite) (name filePath id : String) : Option Test :=
  (suites.find? (·.isAt name filePath)).bind fun suite => suite.tests.find? (·.id = id)

end Suites

/-- A new suite gets from its first test what recounting gives it. -/
theorem Suite.push_new (name filePath : String) (test : Test) :
    ({ name := name, filePath := filePath : Suite }).push test =
      ({ name := name, filePath := filePath : Suite }).upsert test := rfl

end TestReport
