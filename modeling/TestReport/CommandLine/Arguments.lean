import TestReport.Framework
import TestReport.Text.Search

/-!
# Arguments

The arguments of the program are inputs, switches and settings. A setting takes a value, either in
the same argument or as the next one; switches with a single letter may share an argument. After
`--` every argument is an input, and `-` alone is one too.

Arguments are read in order, and the first that asks for the version or for help, or that cannot be
understood, ends the reading (`Stop`). Otherwise they make up a `Request`. Switches and settings may
be given once, and there has to be an input.
-/

namespace TestReport.CommandLine

/-! ## Requests -/

/-- How results are printed. -/
inductive Format
  /-- The results as JSON. -/
  | json
  /-- One line of counts for each result. -/
  | summary
  /-- The failures of each result. -/
  | failures
deriving DecidableEq, Repr

namespace Format

/-- All formats. -/
def all : List Format := [json, summary, failures]

/-- The name of a format. -/
def name : Format → String
  | json => "json"
  | summary => "summary"
  | failures => "failures"

/-- The format with a given name. -/
def ofName? (s : String) : Option Format :=
  all.find? (·.name == s)

/-- The format with a given name, the case of its letters apart. -/
def ofNameAnyCase? (s : String) : Option Format :=
  all.find? fun f => Text.equalUpToCase f.name.toList s.toList

theorem ofName?_name (f : Format) : ofName? f.name = some f := by
  cases f <;> decide

end Format

/-- What is asked of a run. -/
structure Request where
  inputs : List String := []
  framework : Option Framework := none
  format : Option Format := none
  /-- The path of the configuration file. -/
  config : Option String := none
  pretty : Bool := false
  /-- Whether paths keep their backslashes. -/
  keepPaths : Bool := false
  /-- Whether captured console output is dropped. -/
  dropConsole : Bool := false
  /-- Whether an unsuccessful result makes the run fail. -/
  check : Bool := false
  verbose : Bool := false
deriving DecidableEq, Repr

/-- Why reading arguments ends early. -/
inductive Stop
  | version
  | help
  | misuse
deriving DecidableEq, Repr

/-! ## Options -/

/-- An option without a value. -/
inductive Switch
  | pretty
  | keepPaths
  | dropConsole
  | check
  | verbose
deriving DecidableEq, Repr

/-- An option with a value. -/
inductive Setting
  | framework
  | format
  | config
deriving DecidableEq, Repr

/-- What an option is. -/
inductive Flag
  | switch (s : Switch)
  | setting (s : Setting)
  | stop (s : Stop)
deriving DecidableEq, Repr

/-- An option with its spellings and what help says about it. -/
structure OptionEntry where
  letter : Option Char
  name : String
  flag : Flag
  /-- What the value is called. -/
  value : Option String
  about : String

/-- All options. -/
def options : List OptionEntry :=
  [⟨some 'f', "framework", .setting .framework, some "FRAMEWORK",
      "Framework that produced the reports (mocha, jest, vitest); sniffed when omitted"⟩,
    ⟨none, "format", .setting .format, some "FORMAT",
      "Output format [possible values: json, summary, failures]"⟩,
    ⟨none, "pretty", .switch .pretty, none, "Pretty-print JSON output"⟩,
    ⟨none, "no-normalize-paths", .switch .keepPaths, none,
      "Keep backslash path separators as reported"⟩,
    ⟨none, "no-console", .switch .dropConsole, none,
      "Drop captured console output from metadata"⟩,
    ⟨none, "config", .setting .config, some "CONFIG",
      "Config file (defaults to ./testnorm.toml when present)"⟩,
    ⟨none, "check", .switch .check, none,
      "Exit with status 1 when any report is unsuccessful or unparseable"⟩,
    ⟨some 'v', "verbose", .switch .verbose, none, "Enable debug logging"⟩,
    ⟨some 'h', "help", .stop .help, none, "Print help"⟩,
    ⟨some 'V', "version", .stop .version, none, "Print version"⟩]

/-- The option with a given name. -/
def flagNamed? (name : String) : Option Flag :=
  (options.find? (·.name == name)).map (·.flag)

/-- The option with a given letter. -/
def flagLettered? (c : Char) : Option Flag :=
  (options.find? (·.letter == some c)).map (·.flag)

/-! ## Setting options -/

namespace Request

/-- A request with a switch turned on, if it was off. -/
def turnOn (r : Request) : Switch → Except Stop Request
  | .pretty => if r.pretty then throw .misuse else return { r with pretty := true }
  | .keepPaths => if r.keepPaths then throw .misuse else return { r with keepPaths := true }
  | .dropConsole => if r.dropConsole then throw .misuse else return { r with dropConsole := true }
  | .check => if r.check then throw .misuse else return { r with check := true }
  | .verbose => if r.verbose then throw .misuse else return { r with verbose := true }

/-- A request with a setting made, if it was open and the value is one that it can have. -/
def set (r : Request) (s : Setting) (value : String) : Except Stop Request :=
  match s with
  | .framework =>
    match r.framework, Framework.ofName? value with
    | none, some f => return { r with framework := some f }
    | _, _ => throw .misuse
  | .format =>
    match r.format, Format.ofName? value with
    | none, some f => return { r with format := some f }
    | _, _ => throw .misuse
  | .config =>
    if r.config.isNone ∧ !value.isEmpty then return { r with config := some value }
    else throw .misuse

/-! ## Reading -/

/-- Reads options by their letters. A setting takes what follows its letter as its value; if nothing
does, it is returned and waits for the next argument. -/
def readLetters (r : Request) : List Char → Except Stop (Request × Option Setting)
  | [] => return (r, none)
  | c :: s =>
    match flagLettered? c with
    | none => throw .misuse
    | some (.stop stop) => throw stop
    | some (.switch switch) => do readLetters (← r.turnOn switch) s
    | some (.setting setting) =>
      match s with
      | [] => return (r, some setting)
      | '=' :: s => return (← r.set setting (String.ofList s), none)
      | s => return (← r.set setting (String.ofList s), none)

/-- Reads an option by its name, with the value that may follow an equals sign. -/
def readName (r : Request) (s : List Char) : Except Stop (Request × Option Setting) := do
  let value? := (s.dropWhile (· != '=')).tail?.map String.ofList
  match flagNamed? (String.ofList (s.takeWhile (· != '='))), value? with
  | some (.stop stop), none => throw stop
  | some (.switch switch), none => return (← r.turnOn switch, none)
  | some (.setting setting), none => return (r, some setting)
  | some (.setting setting), some value => return (← r.set setting value, none)
  | _, _ => throw .misuse

/-- Whether an argument holds options. -/
def holdsOptions (argument : String) : Bool :=
  argument.startsWith "-" && argument != "-"

/-- Reads the options of an argument. -/
def readOptions (r : Request) (argument : String) : Except Stop (Request × Option Setting) :=
  match argument.toList with
  | '-' :: '-' :: s => r.readName s
  | _ :: s => r.readLetters s
  | [] => return (r, none)

/-- Reads arguments, when a setting may be waiting for its value. -/
def readArguments (r : Request) : Option Setting → List String → Except Stop Request
  | none, [] => return r
  | some _, [] => throw .misuse
  | some setting, value :: rest => do
    if holdsOptions value then throw .misuse
    readArguments (← r.set setting value) none rest
  | none, argument :: rest => do
    if argument = "--" then return { r with inputs := r.inputs ++ rest }
    if holdsOptions argument then
      let (r, waiting) ← r.readOptions argument
      readArguments r waiting rest
    else readArguments { r with inputs := r.inputs ++ [argument] } none rest

/-- The request that arguments make up. -/
def ofArguments? (arguments : List String) : Except Stop Request := do
  let r ← readArguments {} none arguments
  if r.inputs.isEmpty then throw .misuse else return r

end Request

/-! ## Help -/

/-- The spellings of an option, in a column. -/
def OptionEntry.spelling (entry : OptionEntry) : String :=
  let letter :=
    match entry.letter with
    | some c => "-" ++ c.toString ++ ", "
    | none => "    "
  let value :=
    match entry.value with
    | some name => " <" ++ name ++ ">"
    | none => ""
  "  " ++ letter ++ "--" ++ entry.name ++ value

/-- A text filled up with blanks to a width. -/
def padTo (width : Nat) (s : String) : String :=
  s ++ String.ofList (List.replicate (width - s.length) ' ')

/-- What is printed on request for help. -/
def helpText : String :=
  let width := (options.map (·.spelling.length)).foldl max 0 + 2
  "Normalize test-framework reports into one canonical JSON schema\n\n" ++
    "Usage: testnorm [OPTIONS] <INPUTS>...\n\n" ++
    "Arguments:\n  <INPUTS>...  Report files, glob patterns, or `-` for stdin\n\n" ++
    "Options:\n" ++
    String.join (options.map fun entry => padTo width entry.spelling ++ entry.about ++ "\n")

/-- What is printed on request for the version. -/
def versionText : String := "testnorm 0.1.0\n"

end TestReport.CommandLine
