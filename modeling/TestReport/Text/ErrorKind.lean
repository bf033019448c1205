import TestReport.Text.CharSet

/-!
# The kind of an error

A failure message often starts with the name of an error class, as in `TypeError: x is not a
function`. `errorKind` reads that name: a word at the very start that begins with an ASCII letter,
`_` or `$`, goes on with word characters and `$`, ends in `Error` or `Exception` with something
before it, and is followed by no further word character. Of several such ends the last counts. A
message that starts otherwise is of the kind `Error`.
-/

namespace TestReport.Text

/-- Characters with which the name of an error class can begin. -/
def isKindStart (c : Char) : Bool :=
  c.isAlpha || c == '_' || c == '$'

/-- Characters with which the name of an error class can go on. -/
def isKindChar (c : Char) : Bool :=
  isWord c || c == '$'

/-- Whether a name, read backwards, ends like that of an error class. -/
def endsLikeKind (name : List Char) : Bool :=
  ("rorrE".toList.isPrefixOf name && 5 < name.length) ||
    ("noitpecxE".toList.isPrefixOf name && 9 < name.length)

/-- The longest name of an error class that goes on from `name`, which is read backwards, into a
text. -/
def longestKind? (name : List Char) (rest : List Char) : Option (List Char) :=
  let here := if endsLikeKind name && !rest.head?.any isWord then some name.reverse else none
  match rest with
  | [] => here
  | c :: rest => if isKindChar c then (longestKind? (c :: name) rest).or here else here

/-- The kind of error that a message tells of. -/
def errorKind (message : List Char) : String :=
  match message with
  | [] => "Error"
  | c :: rest =>
    if isKindStart c then ((longestKind? [c] rest).map String.ofList).getD "Error" else "Error"

example : errorKind "TypeError: x is not a function".toList = "TypeError" := by decide +kernel
example : errorKind "Error: boom".toList = "Error" := by decide +kernel
example : errorKind "MyErrorException2Error$ x".toList = "MyErrorException2Error" := by
  decide +kernel

end TestReport.Text
