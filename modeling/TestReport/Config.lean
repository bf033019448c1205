import TestReport.Options
import TestReport.Toml.Document

/-!
# Configuration

Settings that a run takes from a file: overrides for the parsers, and how results are printed. The
file is a TOML document with a table `parser` and a table `output`; both may be missing, as may
every field of them, and what is no setting is passed over.

A table may also be written as the array of its fields in order, as far as they are given. A time
has none of the fields and leaves everything open.
-/

namespace TestReport

/-- How results are printed. -/
structure OutputConfig where
  /-- The name of the format. -/
  format : Option String := none
  /-- Whether JSON is printed over several lines. -/
  pretty : Bool := false
deriving DecidableEq, Repr

/-- The settings of a configuration file. -/
structure Config where
  parser : Overrides := {}
  output : OutputConfig := {}
deriving DecidableEq, Repr

/-! ## Fields of values -/

namespace Toml

/-- The fields that a value gives, by name, when `names` are the fields of the record in order. -/
def fields? (names : List String) : Toml → Option Members
  | table _ members => some members
  | time => some []
  | array items => some (names.zip items)
  | elements earlier latest =>
    some (names.zip ((earlier ++ [latest]).map (table .headed)))
  | text _ | flag _ | number => none

/-- The switch at a key, which may be missing. -/
def flagAt? (members : Members) (key : String) : Option (Option Bool) :=
  match members.lookup key with
  | none => some none
  | some (flag b) => some (some b)
  | some _ => none

/-- The text at a key, which may be missing. -/
def textAt? (members : Members) (key : String) : Option (Option String) :=
  match members.lookup key with
  | none => some none
  | some (text s) => some (some s)
  | some _ => none

end Toml

/-! ## Reading -/

/-- The overrides that a value gives. -/
def Overrides.ofToml? (v : Toml) : Option Overrides := do
  let members ← v.fields? ["normalize_file_paths", "include_console_output"]
  return ⟨← Toml.flagAt? members "normalize_file_paths",
    ← Toml.flagAt? members "include_console_output"⟩

/-- The output settings that a value gives; written as an array they start with the format. -/
def OutputConfig.ofToml? (v : Toml) : Option OutputConfig := do
  let members ← v.fields? ["format", "pretty"]
  let format ← Toml.textAt? members "format"
  let pretty ← Toml.flagAt? members "pretty"
  match v, format with
  | .array _, none => none
  | _, _ => return ⟨format, pretty.getD false⟩

namespace Config

/-- The settings that the members of a document give. -/
def ofMembers? (members : Toml.Members) : Option Config := do
  let parser ← ((members.lookup "parser").map Overrides.ofToml?).getD (some {})
  let output ← ((members.lookup "output").map OutputConfig.ofToml?).getD (some {})
  return ⟨parser, output⟩

/-- The settings that a text gives, if it is a document and they have the right kinds. -/
def ofText? (text : String) : Option Config :=
  (Toml.ofText? text).bind ofMembers?

end Config

end TestReport
