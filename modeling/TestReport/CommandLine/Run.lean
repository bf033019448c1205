import TestReport.CommandLine.Arguments
import TestReport.Config
import TestReport.Digest
import TestReport.Disk
import TestReport.Glob.Paths
import TestReport.Json.Printer
import TestReport.Registry

/-!
# Runs

A run settles how it prints, then reads all its inputs, and only then prints, so that a run which
fails prints nothing (`Outcome.ofResults`). It fails when its configuration or one of its inputs
cannot be used. Whether the results are successful matters to the exit status alone, and only on
request.

An input is `-` for the standard input, which can be read once and is empty from then on, or the
path of a file, or else a pattern with one file at least (`sources`). Everything that a run needs
from outside it asks of a disk and of an action for the standard input; the current time is an
argument.
-/

namespace TestReport.CommandLine

/-- What reports say about the host of this program. -/
def host : Environment where
  runtime := "testnorm 0.1.0"
  platform := "linux"
  arch := "x86_64"

/-! ## Failing -/

/-- Why a run fails. -/
inductive RunError
  | unreadableConfig (path : String)
  | invalidConfig (path : String)
  | unknownFormat (name : String)
  | malformedPattern (pattern : String)
  | noMatch (pattern : String)
  | unreadableInput (path : String)
deriving DecidableEq, Repr

/-- The wording of an error. -/
def RunError.message : RunError → String
  | unreadableConfig path => "failed to read config file " ++ path
  | invalidConfig path => "invalid config file " ++ path
  | unknownFormat name => "invalid output format in config: " ++ name
  | malformedPattern pattern => "invalid glob pattern '" ++ pattern ++ "'"
  | noMatch pattern => "no report files match '" ++ pattern ++ "'"
  | unreadableInput path => "failed to read " ++ path

section

variable {m : Type → Type} [Monad m]

/-! ## Configuration -/

/-- The name of the configuration file that is used without being asked for. -/
def configName : String := "testnorm.toml"

/-- The configuration in a file. -/
def readConfig (disk : Disk m) (path : String) : m (Except RunError Config) := do
  match ← disk.text? path with
  | none => return .error (.unreadableConfig path)
  | some text =>
    match Config.ofText? text with
    | none => return .error (.invalidConfig path)
    | some config => return .ok config

/-- The configuration of the current directory, which is the default one unless it can be read. -/
def defaultConfig (disk : Disk m) : m Config := do
  match ← readConfig disk configName with
  | .ok config => return config
  | .error _ => return {}

/-- The configuration that a request is for. -/
def Request.readConfig (r : Request) (disk : Disk m) : m (Except RunError Config) :=
  match r.config with
  | some path => CommandLine.readConfig disk path
  | none => return .ok (← defaultConfig disk)

/-- How results are printed. -/
structure Style where
  format : Format
  /-- Whether JSON is printed over several lines. -/
  pretty : Bool
deriving DecidableEq, Repr

/-- The style of a request. -/
def Request.style (r : Request) (config : Config) : Except RunError Style := do
  let format ←
    match r.format, config.output.format with
    | some format, _ => pure format
    | none, none => pure .json
    | none, some name =>
      match Format.ofNameAnyCase? name with
      | some format => pure format
      | none => throw (.unknownFormat name)
  return ⟨format, r.pretty || config.output.pretty⟩

/-- The overrides of a request: its own ones win over those of the configuration. -/
def Request.overrides (r : Request) (config : Config) : Overrides :=
  config.parser.merge
    { normalizeFilePaths := if r.keepPaths then some false else none
      includeConsoleOutput := if r.dropConsole then some false else none }

/-! ## Inputs -/

/-- An output to parse, with the name it goes by. -/
structure Source where
  label : String
  text : String
deriving DecidableEq, Repr

/-- The files that an input stands for. -/
def filesOf (disk : Disk m) (input : String) : m (Except RunError (List String)) := do
  if ← disk.isFile input then return .ok [input]
  match Glob.PathPattern.ofText? input with
  | none => return .error (.malformedPattern input)
  | some pattern =>
    match ← (← pattern.paths disk).filterM disk.isFile with
    | [] => return .error (.noMatch input)
    | paths => return .ok paths

/-- The outputs in some files. -/
def readFiles (disk : Disk m) : List String → m (Except RunError (List Source))
  | [] => return .ok []
  | path :: rest => do
    match ← disk.text? path with
    | none => return .error (.unreadableInput path)
    | some text => return (← readFiles disk rest).map (⟨path, text⟩ :: ·)

/-- The outputs that one input stands for. -/
def readInput (disk : Disk m) (stdin : m (Option String)) (input : String) :
    m (Except RunError (List Source)) := do
  if input = "-" then
    match ← stdin with
    | none => return .error (.unreadableInput "<stdin>")
    | some text => return .ok [⟨"<stdin>", text⟩]
  else
    match ← filesOf disk input with
    | .error e => return .error e
    | .ok paths => readFiles disk paths

/-- The outputs that inputs stand for, in order. -/
def sources (disk : Disk m) (stdin : m (Option String)) :
    List String → m (Except RunError (List Source))
  | [] => return .ok []
  | input :: rest => do
    match ← readInput disk stdin input with
    | .error e => return .error e
    | .ok first =>
      let stdin := if input = "-" then pure (some "") else stdin
      return (← sources disk stdin rest).map (first ++ ·)

/-! ## Results -/

/-- A result with the name of the input it is for. -/
structure Labelled where
  label : String
  report : Report

/-- The result of an output. -/
def Source.parse (source : Source) (framework : Option Framework) (overrides : Overrides)
    (now : Instant) : Labelled :=
  let adapter : Adapter := ⟨Framework.choose source.text framework, host, {}⟩
  ⟨source.label, adapter.parse overrides source.text now⟩

/-- The results of a run with the style to print them in. -/
structure Results where
  style : Style
  results : List Labelled

/-- The results that a request is for. -/
def Request.results (r : Request) (disk : Disk m) (stdin : m (Option String)) (now : Instant) :
    m (Except RunError Results) := do
  match ← r.readConfig disk with
  | .error e => return .error e
  | .ok config =>
    match r.style config with
    | .error e => return .error e
    | .ok style =>
      return (← sources disk stdin r.inputs).map fun sources =>
        ⟨style, sources.map (·.parse r.framework (r.overrides config) now)⟩

end

/-! ## Printing -/

/-- The JSON document of some values: a single one stands for itself. -/
def document : List Json → Json
  | [v] => v
  | vs => .arr vs

/-- The text of results, when `encode` gives the JSON of one. -/
def Results.text (r : Results) (encode : Report → Json) : String :=
  match r.style.format with
  | .json => (document (r.results.map fun l => encode l.report)).toText r.style.pretty ++ "\n"
  | .summary => String.join (r.results.map fun l => l.report.summaryLine l.label ++ "\n")
  | .failures => String.join (r.results.map fun l => l.report.failureList l.label)

/-- Whether all results are successful. -/
def Results.allSuccessful (r : Results) : Bool :=
  r.results.all (·.report.isSuccessful)

/-! ## Outcomes -/

/-- What a run shows. -/
structure Outcome where
  exit : UInt8
  stdout : String
  /-- What is said about an error. -/
  complaint : Option String := none
deriving DecidableEq, Repr

/-- The outcome of reading arguments that make up no request. -/
def Outcome.ofStop : Stop → Outcome
  | .version => ⟨0, versionText, none⟩
  | .help => ⟨0, helpText, none⟩
  | .misuse => ⟨2, "", some "invalid arguments; for more information, try '--help'."⟩

/-- The outcome of a run. -/
def Outcome.ofResults (check : Bool) (encode : Report → Json) :
    Except RunError Results → Outcome
  | .error e => ⟨1, "", some e.message⟩
  | .ok results =>
    ⟨if check && !results.allSuccessful then 1 else 0, results.text encode, none⟩

/-- The outcome of a request. -/
def Request.run {m : Type → Type} [Monad m] (r : Request) (encode : Report → Json) (disk : Disk m)
    (stdin : m (Option String)) (now : Instant) : m Outcome := do
  return .ofResults r.check encode (← r.results disk stdin now)

/-- The outcome of calling the program with arguments. -/
def call {m : Type → Type} [Monad m] (arguments : List String) (encode : Report → Json)
    (disk : Disk m) (stdin : m (Option String)) (now : Instant) : m Outcome :=
  match Request.ofArguments? arguments with
  | .error stop => return .ofStop stop
  | .ok request => request.run encode disk stdin now

end TestReport.CommandLine
