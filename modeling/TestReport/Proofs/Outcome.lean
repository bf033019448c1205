import TestReport.Proofs.Inputs

/-!
# Outcomes of runs

A run that is in error prints nothing and exits with 1, whatever inputs could be read before. A run
is in error when its configuration cannot be used, or names a format that is none where its format
counts, or when an input is in error (`Request.IsInError`). Otherwise the run prints its results
(`Request.run_of_not_isInError`). They depend neither on a request to check them nor on what comes
of it: the check changes the exit status alone, and does so when a result is not successful
(`Request.run_check`).
-/

namespace TestReport.CommandLine

namespace Request

variable {r : Request} {disk : Disk Id} {stdin : Option String}

/-! ## When a request is in error -/

/-- The configuration in force. A file that the request names has to be one; the file of the current
directory is passed over if it is none. -/
def config? (r : Request) (disk : Disk Id) : Option Config :=
  match r.config with
  | some path => (disk.text? path).run.bind Config.ofText?
  | none => some (((disk.text? configName).run.bind Config.ofText?).getD {})

/-- The format in force. The one that the configuration names counts if the request has none. -/
def format? (r : Request) (config : Config) : Option Format :=
  match r.format, config.output.format with
  | some format, _ => some format
  | none, some name => Format.ofNameAnyCase? name
  | none, none => some .json

/-- Why a request cannot be run. -/
inductive IsInError (r : Request) (disk : Disk Id) (stdin : Option String) : Prop
  | unreadableConfig {path : String} (hpath : r.config = some path)
      (h : (disk.text? path).run = none)
  | invalidConfig {path text : String} (hpath : r.config = some path)
      (htext : (disk.text? path).run = some text) (h : Config.ofText? text = none)
  | unknownFormat {config : Config} (hconfig : r.config? disk = some config)
      (h : r.format? config = none)
  | badInput {input : String} (hinput : input ∈ r.inputs) (h : InputError disk stdin input)

theorem isInError_of_config? (h : r.config? disk = none) : r.IsInError disk stdin := by
  unfold config? at h
  cases hpath : r.config with
  | none =>
    rw [hpath] at h
    cases h
  | some path =>
    rw [hpath] at h
    dsimp only at h
    cases htext : (disk.text? path).run with
    | none => exact .unreadableConfig hpath htext
    | some text =>
      rw [htext] at h
      exact .invalidConfig hpath htext h

/-- With a configuration and a format, only an input can be in error. -/
theorem IsInError.exists_inputError (h : r.IsInError disk stdin) {config : Config}
    (hconfig : r.config? disk = some config) {format : Format}
    (hformat : r.format? config = some format) :
    ∃ input ∈ r.inputs, InputError disk stdin input := by
  cases h with
  | unreadableConfig hpath h =>
    rw [config?, hpath] at hconfig
    dsimp only at hconfig
    rw [h] at hconfig
    cases hconfig
  | invalidConfig hpath htext h =>
    rw [config?, hpath] at hconfig
    dsimp only at hconfig
    rw [htext, Option.bind_some, h] at hconfig
    cases hconfig
  | unknownFormat hother h =>
    rw [hother] at hconfig
    cases hconfig
    rw [h] at hformat
    cases hformat
  | badInput hinput h => exact ⟨_, hinput, h⟩

theorem exists_of_not_isInError (h : ¬r.IsInError disk stdin) :
    ∃ config format, r.config? disk = some config ∧ r.format? config = some format := by
  cases hconfig : r.config? disk with
  | none => exact absurd (isInError_of_config? hconfig) h
  | some config =>
    cases hformat : r.format? config with
    | none => exact absurd (.unknownFormat hconfig hformat) h
    | some format => exact ⟨config, format, rfl, hformat⟩

/-! ## What a request comes to -/

theorem toOption_readConfigAt (disk : Disk Id) (path : String) :
    (CommandLine.readConfig disk path).run.toOption =
      (disk.text? path).run.bind Config.ofText? := by
  rw [CommandLine.readConfig, Id.run_bind]
  cases (disk.text? path).run with
  | none => rfl
  | some text =>
    dsimp only [Option.bind_some]
    cases Config.ofText? text <;> rfl

theorem toOption_readConfig (r : Request) (disk : Disk Id) :
    (r.readConfig disk).run.toOption = r.config? disk := by
  unfold config? readConfig
  cases r.config with
  | some path => exact toOption_readConfigAt disk path
  | none =>
    have hdefault : (defaultConfig disk).run =
        (CommandLine.readConfig disk configName).run.toOption.getD {} := by
      rw [defaultConfig, Id.run_bind]
      cases (CommandLine.readConfig disk configName).run <;> rfl
    rw [← toOption_readConfigAt disk configName, ← hdefault]
    rfl

theorem toOption_style (r : Request) (config : Config) :
    (r.style config).toOption =
      (r.format? config).map fun format => ⟨format, r.pretty || config.output.pretty⟩ := by
  unfold style format?
  cases r.format with
  | some format => rfl
  | none =>
    cases config.output.format with
    | none => rfl
    | some name =>
      dsimp only
      cases Format.ofNameAnyCase? name <;> rfl

/-- The results of a request under a configuration. -/
def labelled (r : Request) (config : Config) (disk : Disk Id) (stdin : Option String)
    (now : Instant) : List Labelled :=
  (outputs disk stdin r.inputs).map (·.parse r.framework (r.overrides config) now)

theorem run_results (r : Request) (disk : Disk Id) (stdin : Option String) (now : Instant) :
    (r.results disk stdin now).run =
      (r.readConfig disk).run.bind fun config =>
        (r.style config).bind fun style =>
          (sources disk stdin r.inputs).run.map fun sources =>
            ⟨style, sources.map (·.parse r.framework (r.overrides config) now)⟩ := by
  rw [results, Id.run_bind]
  cases (r.readConfig disk).run with
  | error e => rfl
  | ok config =>
    dsimp only [Except.bind]
    cases r.style config <;> rfl

theorem results_of_isInError (h : r.IsInError disk stdin) (now : Instant) :
    ∃ e, (r.results disk stdin now).run = .error e := by
  rw [run_results]
  cases hread : (r.readConfig disk).run with
  | error e => exact ⟨e, rfl⟩
  | ok config =>
    dsimp only [Except.bind]
    cases hstyle : r.style config with
    | error e => exact ⟨e, rfl⟩
    | ok style =>
      have hconfig : r.config? disk = some config := by
        rw [← toOption_readConfig, hread]
        rfl
      have hformat := toOption_style r config
      rw [hstyle] at hformat
      obtain ⟨format, hformat, -⟩ := Option.map_eq_some_iff.1 hformat.symm
      obtain ⟨e, he⟩ := (sources_allOrNothing disk stdin r.inputs).nothing
        (h.exists_inputError hconfig hformat)
      exact ⟨e, by rw [he]; rfl⟩

theorem ok_of_toOption {ε α : Type} {result : Except ε α} {a : α}
    (h : result.toOption = some a) : result = .ok a := by
  cases result with
  | error e => cases h
  | ok a => cases h; rfl

theorem results_of_not_isInError (h : ¬r.IsInError disk stdin) {config : Config}
    (hconfig : r.config? disk = some config) {format : Format}
    (hformat : r.format? config = some format) (now : Instant) :
    (r.results disk stdin now).run =
      .ok ⟨⟨format, r.pretty || config.output.pretty⟩, r.labelled config disk stdin now⟩ := by
  have hread := ok_of_toOption ((toOption_readConfig r disk).trans hconfig)
  have hstyle := ok_of_toOption
    ((toOption_style r config).trans (congrArg (Option.map _) hformat))
  have hsources := (sources_allOrNothing disk stdin r.inputs).all
    fun ⟨_, hinput, herror⟩ => h (.badInput hinput herror)
  rw [run_results, hread]
  dsimp only [Except.bind]
  rw [hstyle, hsources]
  rfl

/-! ## What a run shows -/

variable (encode : Report → Json) (now : Instant)

theorem run_eq_ofResults (r : Request) (disk : Disk Id) (stdin : Option String) :
    (r.run encode disk stdin now).run =
      .ofResults r.check encode (r.results disk stdin now).run := rfl

theorem run_of_isInError (h : r.IsInError disk stdin) :
    (r.run encode disk stdin now).run.exit = 1 ∧ (r.run encode disk stdin now).run.stdout = "" := by
  obtain ⟨e, he⟩ := results_of_isInError h now
  rw [run_eq_ofResults, he]
  exact ⟨rfl, rfl⟩

theorem run_of_not_isInError (h : ¬r.IsInError disk stdin) {config : Config}
    (hconfig : r.config? disk = some config) {format : Format}
    (hformat : r.format? config = some format) :
    (r.run encode disk stdin now).run =
      ⟨if r.check && (r.labelled config disk stdin now).any (!·.report.summary.success) then 1
        else 0,
        Results.text ⟨⟨format, r.pretty || config.output.pretty⟩, r.labelled config disk stdin now⟩
          encode, none⟩ := by
  rw [run_eq_ofResults, results_of_not_isInError h hconfig hformat, List.any_eq_not_all_not]
  simp only [Bool.not_not]
  rfl

/-- A request with its check turned on or off. -/
def withCheck (r : Request) (check : Bool) : Request :=
  { r with check := check }

theorem IsInError.withCheck (h : r.IsInError disk stdin) (check : Bool) :
    (r.withCheck check).IsInError disk stdin := by
  cases h with
  | unreadableConfig hpath h => exact .unreadableConfig hpath h
  | invalidConfig hpath htext h => exact .invalidConfig hpath htext h
  | unknownFormat hconfig h => exact .unknownFormat hconfig h
  | badInput hinput h => exact .badInput hinput h

/-- The check of a run leaves its output alone, and makes it fail exactly when a result is not
successful. A run fails without a check exactly when it is in error, and then it prints nothing. -/
theorem run_check (r : Request) (disk : Disk Id) (stdin : Option String) :
    ((r.withCheck true).run encode disk stdin now).run.stdout =
      ((r.withCheck false).run encode disk stdin now).run.stdout ∧
    (((r.withCheck true).run encode disk stdin now).run.exit = 1 ↔
      ((r.withCheck false).run encode disk stdin now).run.exit = 1 ∨
        ∃ config ∈ r.config? disk, ∃ source ∈ outputs disk stdin r.inputs,
          (source.parse r.framework (r.overrides config) now).report.summary.success = false) ∧
    (((r.withCheck false).run encode disk stdin now).run.exit = 1 ↔ r.IsInError disk stdin) ∧
    (r.IsInError disk stdin →
      (r.run encode disk stdin now).run.exit = 1 ∧
        (r.run encode disk stdin now).run.stdout = "") := by
  refine and_assoc.1 (and_assoc.1 ⟨?_, fun h => run_of_isInError encode now h⟩)
  by_cases h : r.IsInError disk stdin
  · obtain ⟨hexit, hstdout⟩ := run_of_isInError encode now (h.withCheck true)
    obtain ⟨hexit', hstdout'⟩ := run_of_isInError encode now (h.withCheck false)
    rw [hexit, hexit', hstdout, hstdout']
    simp [h]
  · obtain ⟨config, format, hconfig, hformat⟩ := exists_of_not_isInError h
    -- the check is no part of what a request comes to
    have hrun : ∀ check, ((r.withCheck check).run encode disk stdin now).run =
        ⟨if check && (r.labelled config disk stdin now).any (!·.report.summary.success) then 1
          else 0,
          Results.text ⟨⟨format, r.pretty || config.output.pretty⟩,
            r.labelled config disk stdin now⟩ encode, none⟩ := fun check =>
      run_of_not_isInError (r := r.withCheck check) encode now
        (fun herror => h (herror.withCheck r.check)) hconfig hformat
    rw [hrun, hrun, hconfig]
    simp [h, labelled]

/-- A disk with one report on it. -/
def singleReportDisk : Disk Id :=
  Disk.ofFiles [("a.json", "\x7b\"stats\":\x7b\"failures\":1\x7d\x7d".toUTF8)]

/-- A file that can be read is not printed if the next one is missing. -/
theorem run_check_missingFile :
    ¬InputError singleReportDisk none "a.json" ∧
      (run { inputs := ["a.json", "b.json"] } Report.toJson singleReportDisk none .epoch).run.exit =
        1 ∧
      (run { inputs := ["a.json", "b.json"] } Report.toJson singleReportDisk none
        .epoch).run.stdout = "" := by
  have hreadable : ¬InputError singleReportDisk none "a.json" := by
    rw [inputError_iff, if_neg (by decide)]
    decide +kernel
  have hmissing : InputError singleReportDisk none "b.json" := by
    rw [inputError_iff, if_neg (by decide)]
    exact .inl (by decide +kernel)
  exact ⟨hreadable, (run_check Report.toJson .epoch { inputs := ["a.json", "b.json"] }
    singleReportDisk none).2.2.2 (.badInput (List.mem_cons_of_mem _ List.mem_cons_self) hmissing)⟩

end Request

end TestReport.CommandLine
