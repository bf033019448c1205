import TestReport.Text.Search
import TestReport.Text.Blank

/-!
# Paths, titles and excerpts

Small rules for the texts that a report shows: separators of paths, the split of a title that holds
a suite and a test in one, and the excerpt of an output that is too long to keep.
-/

namespace TestReport.Text

/-- A path with `/` in place of every `\` when `normalize` is on, else the path as it is. -/
def normalizePath (normalize : Bool) (path : String) : String :=
  if normalize then String.ofList (path.toList.map fun c => if c = '\\' then '/' else c) else path

/-- At most `limit` characters of a text, followed by three dots when something was cut off. -/
def excerpt (limit : Nat) (text : String) : String :=
  if (text.toList.drop limit).isEmpty then text
  else String.ofList (text.toList.take limit ++ "...".toList)

/-- A title cut into the name of a suite and the name of a test: the test is the last word, the
suite is what stands before it. A title of one word has no suite.

It is a guess, for reports that give no hierarchy: the title of a test that has several words is cut
in the wrong place. -/
def splitTitle (title : List Char) : List Char × List Char :=
  match splitLastWhere? isBlank (trim title) with
  | some (suite, test) => (trimEnd suite, test)
  | none => ([], trim title)

example : splitTitle "  Suite Foo   works ".toList = ("Suite Foo".toList, "works".toList) := by
  decide

end TestReport.Text
