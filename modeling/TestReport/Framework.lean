import TestReport.Text.Lines
import TestReport.Text.Search

/-!
# Test frameworks

The three frameworks whose reports can be read, their names, and the guess which of them wrote an
output (`Framework.sniff`). The guess looks for marker fields as plain text and decodes nothing: a
counter that only Jest writes, then a line that looks like a Vitest event, then the statistics of
Mocha.
-/

namespace TestReport

/-- A test framework. -/
inductive Framework
  | mocha
  | jest
  | vitest
deriving DecidableEq, Repr, Inhabited

namespace Framework

/-- All frameworks, in the order in which messages list them. -/
def all : List Framework := [mocha, jest, vitest]

/-- The name of a framework. -/
def name : Framework → String
  | mocha => "mocha"
  | jest => "jest"
  | vitest => "vitest"

/-- The framework with a given name, blanks around it and the case of its letters apart. -/
def ofName? (s : String) : Option Framework :=
  all.find? fun f => Text.equalUpToCase f.name.toList (Text.trim s.toList)

/-- What is said about a name that is no framework's. -/
def unknownMessage (s : String) : String :=
  "unknown test framework '" ++ s ++ "' (expected one of: mocha, jest, vitest)"

/-- Whether a line looks like an event of a Vitest run. -/
def looksLikeEvent (line : List Char) : Bool :=
  let line := Text.trimStart line
  line.head? == some '\x7b' &&
    (Text.occursIn "\"type\":\"run-".toList line ||
      Text.occursIn "\"type\":\"test-finished\"".toList line)

/-- The framework that seems to have written an output. -/
def sniff (output : List Char) : Option Framework :=
  if Text.occursIn "\"numTotalTests\"".toList output then some jest
  else if (Text.lines output).any looksLikeEvent then some vitest
  else if Text.occursIn "\"stats\"".toList output then some mocha
  else none

theorem ofName?_name (f : Framework) : ofName? f.name = some f := by
  cases f <;> decide

end Framework

end TestReport
