import TestReport.Json.Basic
import TestReport.Number.Shortest

/-!
# Printing JSON

A value is printed in one of two layouts: on one line without blanks (`compact`), or with every item
and member on a line of its own, indented by two spaces for each container around it (`pretty`). An
empty container is a pair of brackets in both. Members are printed in the order they have.

In a string the quote, the backslash and the controls are escaped, a control by its short escape
where there is one and by four hexadecimal digits otherwise; everything else stands for itself.
-/

namespace TestReport.Json

/-- How a string spells one character. -/
def escaped (c : Char) : List Char :=
  if c = '"' then ['\\', '"']
  else if c = '\\' then ['\\', '\\']
  else if c = '\n' then ['\\', 'n']
  else if c = '\r' then ['\\', 'r']
  else if c = '\t' then ['\\', 't']
  else if c = '\x08' then ['\\', 'b']
  else if c = '\x0c' then ['\\', 'f']
  else if c.toNat < 0x20 then
    ['\\', 'u', '0', '0', Nat.digitChar (c.toNat / 16), Nat.digitChar (c.toNat % 16)]
  else [c]

/-- The text of a string. -/
def stringText (s : String) : List Char :=
  '"' :: s.toList.flatMap escaped ++ ['"']

/-- The text of a number; a float that is not finite has none and is written as `null`. -/
def numberText : Number → List Char
  | .int n => (toString n).toList
  | .float x => ((floatText? x).getD "null").toList

/-- The start of a line inside `level` containers. -/
def newLine (level : Nat) : List Char :=
  '\n' :: List.replicate (2 * level) ' '

mutual

/-- The text of a value on one line. -/
def compact : Json → List Char
  | null => "null".toList
  | bool b => (if b then "true" else "false").toList
  | num n => numberText n
  | str s => stringText s
  | arr [] => ['[', ']']
  | arr (v :: vs) => '[' :: compact v ++ compactItems vs
  | obj [] => ['\x7b', '\x7d']
  | obj ((k, v) :: ms) => '\x7b' :: stringText k ++ ':' :: compact v ++ compactMembers ms

/-- The text of the items of an array after the first, with the closing bracket. -/
def compactItems : List Json → List Char
  | [] => [']']
  | v :: vs => ',' :: compact v ++ compactItems vs

/-- The text of the members of an object after the first, with the closing brace. -/
def compactMembers : List (String × Json) → List Char
  | [] => ['\x7d']
  | (k, v) :: ms => ',' :: stringText k ++ ':' :: compact v ++ compactMembers ms

end

mutual

/-- The text of a value inside `level` containers, over several lines. -/
def pretty (level : Nat) : Json → List Char
  | null => "null".toList
  | bool b => (if b then "true" else "false").toList
  | num n => numberText n
  | str s => stringText s
  | arr [] => ['[', ']']
  | arr (v :: vs) => '[' :: newLine (level + 1) ++ pretty (level + 1) v ++ prettyItems level vs
  | obj [] => ['\x7b', '\x7d']
  | obj ((k, v) :: ms) =>
    '\x7b' :: newLine (level + 1) ++ stringText k ++ ':' :: ' ' :: pretty (level + 1) v ++
      prettyMembers level ms

/-- The text of the items of an array after the first, with the closing bracket. -/
def prettyItems (level : Nat) : List Json → List Char
  | [] => newLine level ++ [']']
  | v :: vs => ',' :: newLine (level + 1) ++ pretty (level + 1) v ++ prettyItems level vs

/-- The text of the members of an object after the first, with the closing brace. -/
def prettyMembers (level : Nat) : List (String × Json) → List Char
  | [] => newLine level ++ ['\x7d']
  | (k, v) :: ms =>
    ',' :: newLine (level + 1) ++ stringText k ++ ':' :: ' ' :: pretty (level + 1) v ++
      prettyMembers level ms

end

/-- The text of a value, over several lines when `indented` is on. -/
def toText (indented : Bool) (v : Json) : String :=
  String.ofList (if indented then v.pretty 0 else v.compact)

end TestReport.Json
