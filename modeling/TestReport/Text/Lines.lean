import TestReport.Text.Blank

/-!
# Lines

A line ends at a line feed, and a carriage return right before that line feed belongs to the line
end. What follows the last line feed is a line of its own unless it is empty; a carriage return at
the very end of a text is kept, because no line feed follows it.

`lines` cuts a text this way. `firstLine` is the first line that holds anything but blanks, trimmed:
the form in which a message of many lines is quoted in one.
-/

namespace TestReport.Text

/-- A line read backwards, without the carriage return of its line end. -/
def dropReturn : List Char → List Char
  | '\r' :: line => line
  | line => line

/-- The lines of a text, when `pending` holds the characters read since the last line feed, the
latest first. -/
def linesAfter (pending : List Char) : List Char → List (List Char)
  | [] => if pending.isEmpty then [] else [pending.reverse]
  | c :: rest =>
    if c = '\n' then (dropReturn pending).reverse :: linesAfter [] rest
    else linesAfter (c :: pending) rest

/-- The lines of a text, without their line ends. -/
def lines (text : List Char) : List (List Char) :=
  linesAfter [] text

/-- The first line that is not blank, trimmed; the empty text when there is none. -/
def firstLine (text : List Char) : List Char :=
  (((lines text).map trim).find? (!·.isEmpty)).getD []

example : lines "a\r\n\nb\r".toList = ["a".toList, [], "b\r".toList] := by decide

example : firstLine "\n  \n  Error: boom \n at x".toList = "Error: boom".toList := by decide

end TestReport.Text
