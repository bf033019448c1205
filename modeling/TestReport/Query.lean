import TestReport.Report.Wire

/-!
# Questions to a result

The tests of a result by class, each with the suite that holds it. A test that has no file of its
own is in the file of its suite. The lists keep the order of suites and tests, and every test is in
exactly one of the three.
-/

namespace TestReport

/-- A test that names no file. -/
def Test.withoutPath (t : Test) : Test :=
  { t with filePath := none }

@[simp] theorem Test.status_withoutPath (t : Test) : t.withoutPath.status = t.status := rfl

@[simp] theorem Test.fullName_withoutPath (t : Test) : t.withoutPath.fullName = t.fullName := rfl

/-- A test with the suite that holds it. The file stands here, and no more in the test. -/
structure LocatedTest where
  test : Test
  suiteName : String
  /-- The file of the test, or else that of the suite. -/
  filePath : String
deriving DecidableEq

namespace LocatedTest

/-- A test of a suite with its place. -/
def of (suite : Suite) (test : Test) : LocatedTest where
  test := test.withoutPath
  suiteName := suite.name
  filePath := test.filePath.getD suite.filePath

/-- A test with its place as a value. -/
def toJson (t : LocatedTest) : Json :=
  .obj (t.test.members (some t.filePath) (some t.suiteName))

end LocatedTest

namespace Report

/-- The tests of a result whose outcome is in a class. -/
def locatedTests (r : Report) (p : Status → Bool) : List LocatedTest :=
  r.suites.flatMap fun suite => (suite.tests.filter fun t => p t.status).map (LocatedTest.of suite)

/-- The tests that failed or ran out of time. -/
def failedTests (r : Report) : List LocatedTest :=
  r.locatedTests Status.isFailure

/-- The tests that passed. -/
def passedTests (r : Report) : List LocatedTest :=
  r.locatedTests fun s => !s.isFailure && !s.isSkipped

/-- The tests that were skipped or are still to be written. -/
def skippedTests (r : Report) : List LocatedTest :=
  r.locatedTests Status.isSkipped

/-- Whether the run was successful. -/
def isSuccessful (r : Report) : Bool :=
  r.summary.success

end Report

/-- The file of a test; empty when the test names none. -/
def Test.path (t : Test) : String :=
  t.filePath.getD ""

end TestReport
