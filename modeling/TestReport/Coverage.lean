import TestReport.Json.Basic
import TestReport.Number.Binary64

/-!
# Coverage

A coverage map gives, for every file, how often each statement, function and branch arm ran. The
summary counts them over all files: how many there are and how many ran at least once. Lines are
counted through statements: a line is there when a statement starts on it, and covered when such a
statement ran.

An entry of the map is a file when it is an object with statement counts under `s`; it may be
wrapped in an object that holds it under `data`. Everything else in the map is passed over, and a
map without any file has no summary. Each file has its own counts (`FileHits.ofJson`), and the
summary is made of their sum (`Coverage.ofMap?`), so that files can come in any order.
-/

namespace TestReport

/-! ## Counts -/

/-- How many things there are and how many of them ran. -/
structure Hits where
  total : Nat := 0
  covered : Nat := 0
deriving DecidableEq, Repr

namespace Hits

/-- Counts of two sets of things together. -/
def add (a b : Hits) : Hits := ⟨a.total + b.total, a.covered + b.covered⟩

instance : Add Hits := ⟨add⟩

/-- The count of things in a list by whether they ran. -/
def ofList (ran : List Bool) : Hits := ⟨ran.length, ran.count true⟩

/-- The counts of a table from names to numbers of runs. -/
def ofTable? (counts : Option Json) : Hits :=
  match counts.bind Json.members? with
  | some members => ofList (members.map fun m => m.2.isPositive)
  | none => {}

/-- No more things ran than there are. -/
theorem covered_ofList_le (ran : List Bool) : (ofList ran).covered ≤ (ofList ran).total :=
  List.count_le_length

end Hits

/-- The counts of one file. -/
structure FileHits where
  statements : Hits := {}
  branches : Hits := {}
  functions : Hits := {}
  lines : Hits := {}
deriving DecidableEq, Repr

namespace FileHits

/-- Counts of two files together. -/
def add (a b : FileHits) : FileHits :=
  ⟨a.statements + b.statements, a.branches + b.branches, a.functions + b.functions,
    a.lines + b.lines⟩

instance : Add FileHits := ⟨add⟩

/-- The counts of all arms of all branches of a file. -/
def branchHits (branches : Option Json) : Hits :=
  match branches.bind Json.members? with
  | some members => Hits.ofList (members.flatMap fun m => (m.2.items?.getD []).map Json.isPositive)
  | none => {}

/-- The line on which a statement starts. -/
def startLine? (location : Json) : Option Nat :=
  ((location.get? "start").bind (·.get? "line")).bind Json.nat?

/-- The counts of the lines of a file, from the places of its statements and their runs. -/
def lineHits (places runs : Option Json) : Hits :=
  match places.bind Json.members?, runs.bind Json.members? with
  | some places, some runs =>
    let starts := places.filterMap fun (id, location) => (startLine? location).map (id, ·)
    let ran := starts.filter fun (id, _) => (runs.lookup id).any Json.isPositive
    ⟨(starts.map (·.2)).eraseDups.length, (ran.map (·.2)).eraseDups.length⟩
  | _, _ => {}

/-- The counts of an entry of a coverage map, if the entry is a file. -/
def ofJson? (entry : Json) : Option FileHits :=
  let file := (entry.get? "data").getD entry
  if (file.get? "s").isSome then
    some
      { statements := Hits.ofTable? (file.get? "s")
        branches := branchHits (file.get? "b")
        functions := Hits.ofTable? (file.get? "f")
        lines := lineHits (file.get? "statementMap") (file.get? "s") }
  else none

end FileHits

/-! ## The summary -/

/-- One kind of count with its percentage. -/
structure Metric where
  total : UInt64 := 0
  covered : UInt64 := 0
  percent : Float := 0
deriving DecidableEq

/-- The percentage of things that ran, with two decimals; everything when there is nothing. -/
def Metric.percentage (total covered : UInt64) : Float :=
  if total = 0 then 100.0
  else
    match Binary64.ofFloat? (covered.toFloat * 10000.0 / total.toFloat) with
    | some b => Number.floatOfInt b.round / 100.0
    | none => 100.0

/-- A count with its percentage. -/
def Metric.ofHits (hits : Hits) : Metric :=
  let total := UInt64.ofNat hits.total
  let covered := UInt64.ofNat hits.covered
  ⟨total, covered, percentage total covered⟩

/-- The coverage of a run. -/
structure Coverage where
  statements : Metric := {}
  branches : Metric := {}
  functions : Metric := {}
  lines : Metric := {}
deriving DecidableEq

namespace Coverage

/-- The files of a coverage map. -/
def files (map : Json) : List FileHits :=
  (map.members?.getD []).filterMap fun m => FileHits.ofJson? m.2

/-- The counts of all files of a coverage map together. -/
def hits (map : Json) : FileHits :=
  (files map).foldl (· + ·) {}

/-- The coverage that a map shows; nothing when it holds no file. -/
def ofMap? (map : Json) : Option Coverage :=
  if (files map).isEmpty then none
  else
    let hits := hits map
    some
      { statements := Metric.ofHits hits.statements
        branches := Metric.ofHits hits.branches
        functions := Metric.ofHits hits.functions
        lines := Metric.ofHits hits.lines }

end Coverage

end TestReport
