import TestReport.Proofs.Outcome

/-!
# Batch runs

What a run prints for several inputs is made of what it prints for each of them (`run_batch`). With
one line or one list for a result, the output of a run on two lists of inputs is the output for the
one and then that for the other, unless both lists read the standard input. As JSON, several results
are the array of the values that the results are printed as when they are alone; whether there are
several is a matter of outputs, and not of inputs, since a pattern may have many files.

A result depends on the text of its output alone, so it does not matter in which run the output is
alone (`PrintsAlone`).
-/

namespace TestReport.CommandLine

/-! ## Texts of results -/

/-- Other results than JSON are printed one after the other. -/
theorem Results.text_append {style : Style} (hformat : style.format ≠ .json)
    (results others : List Labelled) (encode : Report → Json) :
    Results.text ⟨style, results ++ others⟩ encode =
      Results.text ⟨style, results⟩ encode ++ Results.text ⟨style, others⟩ encode := by
  obtain ⟨format, pretty⟩ := style
  cases format with
  | json => exact absurd rfl hformat
  | summary | failures => simp only [Results.text, List.map_append, String.join_append]

theorem document_of_two_le {values : List Json} (h : 2 ≤ values.length) :
    document values = .arr values := by
  match values, h with
  | _ :: _ :: _, _ => rfl

namespace Request

variable {r : Request} {disk : Disk Id} {stdin : Option String} {config : Config} {format : Format}

/-- A request with other inputs. -/
def withInputs (r : Request) (inputs : List String) : Request :=
  { r with inputs := inputs }

/-- The value that the result of an output is printed as. -/
def valueOf (r : Request) (encode : Report → Json) (config : Config) (now : Instant)
    (source : Source) : Json :=
  encode (source.parse r.framework (r.overrides config) now).report

theorem not_isInError_withInputs (hconfig : r.config? disk = some config)
    (hformat : r.format? config = some format) {inputs : List String}
    (h : ∀ input ∈ inputs, ¬InputError disk stdin input) :
    ¬(r.withInputs inputs).IsInError disk stdin := by
  intro herror
  obtain ⟨input, hinput, hbad⟩ :=
    IsInError.exists_inputError (r := r.withInputs inputs) herror hconfig hformat
  exact h input hinput hbad

theorem run_withInputs (encode : Report → Json) (now : Instant)
    (hconfig : r.config? disk = some config) (hformat : r.format? config = some format)
    {inputs : List String} (h : ¬(r.withInputs inputs).IsInError disk stdin) :
    ((r.withInputs inputs).run encode disk stdin now).run.stdout =
      Results.text ⟨⟨format, r.pretty || config.output.pretty⟩,
        (outputs disk stdin inputs).map (·.parse r.framework (r.overrides config) now)⟩ encode := by
  rw [run_of_not_isInError (r := r.withInputs inputs) encode now h hconfig hformat]
  rfl

/-! ## Single outputs -/

/-- A value is what a request prints for an output that is alone: on the standard input, or in any
run that has no output but one with the same text. -/
structure PrintsAlone (r : Request) (encode : Report → Json) (disk : Disk Id) (pretty : Bool)
    (now : Instant) (source : Source) (value : Json) : Prop where
  standardInput : ((r.withInputs ["-"]).run encode disk (some source.text) now).run.stdout =
    value.toText pretty ++ "\n"
  anywhere : ∀ (stdin : Option String) (inputs : List String) (label : String),
    ¬(r.withInputs inputs).IsInError disk stdin →
      outputs disk stdin inputs = [⟨label, source.text⟩] →
        ((r.withInputs inputs).run encode disk stdin now).run.stdout = value.toText pretty ++ "\n"

theorem outputs_of_isFile {path : String} (hpath : path ≠ "-")
    (hfile : (disk.isFile path).run = true) :
    outputs disk stdin [path] = [⟨path, fileText disk path⟩] := by
  rw [outputs, outputs, outputsOf, if_neg hpath, filesMatching, if_pos hfile]
  rfl

theorem printsAlone_valueOf (encode : Report → Json) (now : Instant)
    (hconfig : r.config? disk = some config) (hformat : r.format? config = some .json)
    (source : Source) :
    r.PrintsAlone encode disk (r.pretty || config.output.pretty) now source
      (r.valueOf encode config now source) := by
  have hany : ∀ (stdin : Option String) (inputs : List String) (label : String),
      ¬(r.withInputs inputs).IsInError disk stdin →
        outputs disk stdin inputs = [⟨label, source.text⟩] →
          ((r.withInputs inputs).run encode disk stdin now).run.stdout =
            (r.valueOf encode config now source).toText (r.pretty || config.output.pretty) ++
              "\n" := by
    intro stdin inputs label h houtputs
    rw [run_withInputs encode now hconfig hformat h, houtputs]
    rfl
  refine ⟨hany _ _ "<stdin>" (not_isInError_withInputs hconfig hformat ?_) rfl, hany⟩
  intro input hinput
  rw [List.mem_singleton.1 hinput, inputError_iff, if_pos rfl]
  exact nofun

/-! ## Several outputs -/

/-- The output of a run on several inputs, in the format and with the configuration in force. -/
theorem run_batch (r : Request) (encode : Report → Json) (now : Instant)
    (hconfig : r.config? disk = some config) (hformat : r.format? config = some format) :
    (format ≠ .json → ∀ inputs others : List String,
      ¬(r.withInputs inputs).IsInError disk stdin → ¬(r.withInputs others).IsInError disk stdin →
      ¬("-" ∈ inputs ∧ "-" ∈ others) →
      ¬(r.withInputs (inputs ++ others)).IsInError disk stdin ∧
        ((r.withInputs (inputs ++ others)).run encode disk stdin now).run.stdout =
          ((r.withInputs inputs).run encode disk stdin now).run.stdout ++
            ((r.withInputs others).run encode disk stdin now).run.stdout) ∧
    (format = .json → ∀ inputs : List String, ¬(r.withInputs inputs).IsInError disk stdin →
      2 ≤ (outputs disk stdin inputs).length →
      ((r.withInputs inputs).run encode disk stdin now).run.stdout =
          (Json.arr ((outputs disk stdin inputs).map (r.valueOf encode config now))).toText
            (r.pretty || config.output.pretty) ++ "\n" ∧
        ∀ source ∈ outputs disk stdin inputs,
          r.PrintsAlone encode disk (r.pretty || config.output.pretty) now source
            (r.valueOf encode config now source)) := by
  constructor
  · intro hplain inputs others hinputs hothers hdash
    have hboth : ¬(r.withInputs (inputs ++ others)).IsInError disk stdin := by
      refine not_isInError_withInputs hconfig hformat fun input hinput herror => ?_
      rcases List.mem_append.1 hinput with hinput | hinput
      · exact hinputs (.badInput hinput herror)
      · exact hothers (.badInput hinput herror)
    refine ⟨hboth, ?_⟩
    rw [run_withInputs encode now hconfig hformat hboth,
      run_withInputs encode now hconfig hformat hinputs,
      run_withInputs encode now hconfig hformat hothers, outputs_append_of_disjoint hdash,
      List.map_append, Results.text_append hplain]
  · rintro rfl inputs hinputs hmany
    refine ⟨?_, fun source _ => printsAlone_valueOf encode now hconfig hformat source⟩
    rw [run_withInputs encode now hconfig hformat hinputs]
    unfold Results.text
    rw [List.map_map, document_of_two_le (by rwa [List.length_map])]
    rfl

/-- A disk with two reports on it, one of a failed run. -/
def twoReportsDisk : Disk Id :=
  Disk.ofFiles [("a.json", "\x7b\"numTotalTests\":1,\"numFailedTests\":1\x7d".toUTF8),
    ("b.json", "\x7b\"numTotalTests\":0\x7d".toUTF8)]

theorem config?_twoReportsDisk (hr : r.config = none) : r.config? twoReportsDisk = some {} := by
  unfold config?
  rw [hr]
  decide +kernel

/-- Two files print an array of what each of them prints, or their summaries, and a file and the
standard input do the same. -/
theorem run_batch_twoReports :
    (∃ first second : Json,
      (run { inputs := ["a.json"] } Report.toJson twoReportsDisk none .epoch).run.stdout =
          first.toText false ++ "\n" ∧
        (run { inputs := ["b.json"] } Report.toJson twoReportsDisk none .epoch).run.stdout =
          second.toText false ++ "\n" ∧
        (run { inputs := ["a.json", "b.json"] } Report.toJson twoReportsDisk none
          .epoch).run.stdout = (Json.arr [first, second]).toText false ++ "\n") ∧
    (run { inputs := ["a.json", "-"], format := some .summary } Report.toJson twoReportsDisk
        (some "") .epoch).run.stdout =
      (run { inputs := ["a.json"], format := some .summary } Report.toJson twoReportsDisk
          (some "") .epoch).run.stdout ++
        (run { inputs := ["-"], format := some .summary } Report.toJson twoReportsDisk
          (some "") .epoch).run.stdout := by
  have hthere : ∀ path ∈ ["a.json", "b.json"],
      path ≠ "-" ∧ (twoReportsDisk.isFile path).run = true ∧
        ¬(filesMatching twoReportsDisk path = [] ∨
          ∃ file ∈ filesMatching twoReportsDisk path, (twoReportsDisk.text? file).run = none) := by
    decide +kernel
  have hfile : ∀ path ∈ ["a.json", "b.json"], ∀ stdin, ¬InputError twoReportsDisk stdin path := by
    intro path hpath stdin
    obtain ⟨hne, -, hread⟩ := hthere path hpath
    rwa [inputError_iff, if_neg hne]
  have hdash : ¬InputError twoReportsDisk (some "") "-" := by
    rw [inputError_iff, if_pos rfl]
    exact nofun
  constructor
  · have hready : ∀ inputs ⊆ ["a.json", "b.json"],
        ¬(withInputs {} inputs).IsInError twoReportsDisk none := fun inputs hinputs =>
      not_isInError_withInputs (config?_twoReportsDisk rfl) rfl fun input hinput =>
        hfile input (hinputs hinput) none
    have hbatch := (run_batch {} Report.toJson .epoch (config?_twoReportsDisk rfl) rfl).2 rfl
      ["a.json", "b.json"] (hready _ (by simp)) (by decide +kernel)
    obtain ⟨hprinted, halone⟩ := hbatch
    have houtputs : ∀ path ∈ ["a.json", "b.json"], outputs twoReportsDisk none [path] =
        [⟨path, fileText twoReportsDisk path⟩] := fun path hpath =>
      outputs_of_isFile (hthere path hpath).1 (hthere path hpath).2.1
    exact ⟨_, _, (halone _ List.mem_cons_self).anywhere none ["a.json"] "a.json"
        (hready _ (by simp)) (houtputs _ (by decide)),
      (halone _ (List.mem_cons_of_mem _ List.mem_cons_self)).anywhere none ["b.json"] "b.json"
        (hready _ (by simp)) (houtputs _ (by decide)), hprinted⟩
  · have hready : ∀ input, ¬InputError twoReportsDisk (some "") input →
        ¬(withInputs { format := some .summary } [input]).IsInError twoReportsDisk (some "") :=
      fun input h => not_isInError_withInputs (config?_twoReportsDisk rfl) rfl
        (List.forall_mem_singleton.2 h)
    exact ((run_batch { format := some .summary } Report.toJson .epoch
      (config?_twoReportsDisk rfl) rfl).1 (by decide) ["a.json"] ["-"]
        (hready _ (hfile _ (by decide) _)) (hready _ hdash) (by decide)).2

end Request

end TestReport.CommandLine
