import TestReport.Suites
import Mathlib.Data.List.Nodup

/-!
# The store of suites

While suites are filled they are kept in a store, which has the list of suites and beside it an
index. The index gives the position of a suite by its name and its file, so that putting a test in
does not go through all suites. `SuiteStore.push` and `SuiteStore.upsert` do what `Suites.push` and
`Suites.upsert` do, but find the suite by the index; a suite that the index does not have is created
at the end.

A store is filled by any sequence of such steps, `SuiteStore.run`; the same steps without an index
are `Suites.run`.
-/

namespace TestReport

/-- A way of putting a test into the suite with a name and a file. -/
inductive SuiteStep
  | push (name filePath : String) (test : Test)
  | upsert (name filePath : String) (test : Test)

/-- Suites with the position of each by its name and file. -/
structure SuiteStore where
  suites : List Suite := []
  index : Std.HashMap (String × String) Nat := ∅

namespace SuiteStore

variable (store : SuiteStore) (name filePath : String)

/-- The store with a suite at the end that has no tests yet. -/
def create : SuiteStore where
  suites := store.suites ++ [{ name := name, filePath := filePath }]
  index := store.index.insert (name, filePath) store.suites.length

/-- The store with the suite at a position changed. -/
def changeAt (i : Nat) (change : Suite → Suite) : SuiteStore :=
  { store with suites := store.suites.modify i change }

/-- The store with a test appended to its suite, which is created on first use. -/
def push (test : Test) : SuiteStore :=
  match store.index[(name, filePath)]? with
  | some i => store.changeAt i (·.push test)
  | none => (store.create name filePath).changeAt store.suites.length (·.push test)

/-- The store with a test in place of the one of its id in its suite. -/
def upsert (test : Test) : SuiteStore :=
  match store.index[(name, filePath)]? with
  | some i => store.changeAt i (·.upsert test)
  | none => store.push name filePath test

/-- The test with an id in the suite with a name and a file. -/
def find? (id : String) : Option Test :=
  store.index[(name, filePath)]?.bind fun i =>
    store.suites[i]?.bind fun suite => suite.tests.find? (·.id = id)

/-- The store after one step. -/
def apply : SuiteStep → SuiteStore
  | .push name filePath test => store.push name filePath test
  | .upsert name filePath test => store.upsert name filePath test

/-- The store that a sequence of steps fills. -/
def run (steps : List SuiteStep) : SuiteStore :=
  steps.foldl apply {}

end SuiteStore

namespace Suites

/-- The suites after one step. -/
def apply (suites : List Suite) : SuiteStep → List Suite
  | .push name filePath test => push suites name filePath test
  | .upsert name filePath test => upsert suites name filePath test

/-- The suites that a sequence of steps fills. -/
def run (steps : List SuiteStep) : List Suite :=
  steps.foldl apply []

end Suites

end TestReport
