import TestReport.Json.Reader
import TestReport.Text.Blank

/-!
# Finding a report in an output

Frameworks print banners, warnings and console output around the report they write, so a report is
looked for: it is the first object in the output that holds a marker key at its top level.

A *mark* is the marker key in quotes, followed by blanks and a colon. Every opening brace before the
last mark is a candidate. `findObject` returns the object at the first candidate where one with the
marker key can be read. If there is none, the error is that of the first candidate where nothing can
be read; if there is no such candidate either, or no mark, the output holds no report.
-/

namespace TestReport

open Json (ReadError)

/-! ## Errors -/

/-- Why an output holds no report that can be read. -/
inductive ExtractError
  | noPayload (framework marker : String)
  | undecodable (framework : String) (reason : ReadError)
  | unusable (framework reason : String)
deriving DecidableEq

namespace ExtractError

/-- The wording of an error. -/
def message : ExtractError → String
  | noPayload framework marker =>
    "no " ++ framework ++ " report found in output (looked for " ++ marker ++ ")"
  | undecodable framework reason => "malformed " ++ framework ++ " report: " ++ reason.message
  | unusable framework reason => "malformed " ++ framework ++ " report: " ++ reason

/-- The wording of what lies behind an error. -/
def cause? : ExtractError → Option String
  | undecodable _ reason => some reason.message
  | noPayload .. | unusable .. => none

end ExtractError

/-! ## Marks and candidates -/

/-- The length of the mark at the start of a text, if there is one. -/
def markLength? (marker : String) (s : List Char) : Option Nat :=
  let key := '"' :: marker.toList ++ ['"']
  if key.isPrefixOf s then
    let rest := s.drop key.length
    match rest.dropWhile Text.isBlank with
    | ':' :: _ => some (key.length + (rest.takeWhile Text.isBlank).length + 1)
    | _ => none
  else none

/-- Where the last mark of a text starts, when its first `skip` characters belong to a mark that has
been found already. -/
def lastMark? (marker : String) (skip : Nat) : List Char → Option Nat
  | [] => none
  | c :: rest =>
    match skip with
    | n + 1 => (lastMark? marker n rest).map (· + 1)
    | 0 =>
      match markLength? marker (c :: rest) with
      | some n => some (((lastMark? marker (n - 1) rest).map (· + 1)).getD 0)
      | none => (lastMark? marker 0 rest).map (· + 1)

/-- The parts of a text that start with one of the opening braces among its first `n` characters. -/
def candidates : Nat → List Char → List (List Char)
  | 0, _ => []
  | _, [] => []
  | n + 1, c :: rest =>
    if c = '\x7b' then (c :: rest) :: candidates n rest else candidates n rest

/-! ## The search -/

/-- The members of the object that a text starts with, if the marker is one of its keys. -/
def markedObject? (marker : String) (text : List Char) : Option (List (String × Json)) :=
  match Json.readValue Json.nestingLimit text with
  | .ok (v, _) => v.canonical.members?.filter fun ms => (ms.lookup marker).isSome
  | .error _ => none

/-- Why no value can be read at the start of a text. -/
def readError? (text : List Char) : Option ReadError :=
  match Json.readValue Json.nestingLimit text with
  | .ok _ => none
  | .error fault => some (fault.error text)

/-- The members of the first object of an output that holds the marker at its top level. -/
def findObject (output : List Char) (framework marker : String) :
    Except ExtractError (List (String × Json)) :=
  match lastMark? marker 0 output with
  | none => .error (.noPayload framework marker)
  | some n =>
    match (candidates n output).findSome? (markedObject? marker) with
    | some members => .ok members
    | none =>
      match (candidates n output).findSome? readError? with
      | some reason => .error (.undecodable framework reason)
      | none => .error (.noPayload framework marker)

end TestReport
