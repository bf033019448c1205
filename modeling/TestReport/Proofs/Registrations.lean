import TestReport.Proofs.Console
import TestReport.Proofs.WellFormed
import Mathlib.Data.String.Basic

/-!
# Histories of registrations

A registry starts empty or with an adapter for every framework, and adapters are registered in it
one after the other. What it holds in the end is told by the whole sequence of registrations, those
at the start included: for each framework the adapter that was registered last
(`Registry.IsLatest`), whatever was registered for other frameworks before, between and after.

Two adapters for one framework may describe different hosts and have different defaults, which only
shows in the results they give. `Report.IsFrom` says of a result that its framework, its host and
its options are those of one adapter and one call. `Registry.registerAll_laws` says that every
result of a selected adapter is of the latest registration in this sense.
-/

namespace TestReport

/-! ## Names in order -/

namespace Framework

theorem mem_all (f : Framework) : f ∈ all := by
  cases f <;> decide

theorem nodup_all : all.Nodup := by decide

theorem name_injective : Function.Injective name := by
  intro f g h
  have hnames : ofName? f.name = ofName? g.name := congrArg ofName? h
  rwa [ofName?_name, ofName?_name, Option.some.injEq] at hnames

end Framework

namespace Registry

theorem mem_frameworks {r : Registry} {f : Framework} :
    f ∈ r.frameworks ↔ (r.get? f).isSome = true := by
  simp [frameworks, Framework.mem_all]

theorem nodup_frameworks (r : Registry) : r.frameworks.Nodup :=
  (List.mergeSort_perm _ _).nodup_iff.2 (Framework.nodup_all.filter _)

theorem pairwise_frameworks (r : Registry) :
    r.frameworks.Pairwise fun f g => f.name < g.name := by
  have hsorted : r.frameworks.Pairwise fun f g => f.name ≤ g.name := by
    refine (List.pairwise_mergeSort ?_ ?_ _).imp of_decide_eq_true
    · intro f g h hfg hgh
      exact decide_eq_true ((of_decide_eq_true hfg).trans (of_decide_eq_true hgh))
    · intro f g
      simpa using le_total f.name g.name
  -- Names in order can only be equal where a framework stands twice.
  refine hsorted.imp₂ (fun f g hle hne => ?_) r.nodup_frameworks
  exact lt_of_le_of_ne hle (Framework.name_injective.ne hne)

/-! ## Histories -/

/-- A registry after adapters have been registered one after the other. -/
def registerAll (r : Registry) (history : List Adapter) : Registry :=
  history.foldl register r

/-- How a registry starts. -/
inductive Start
  | empty
  | builtin (environment : Environment) (defaults : Options)

/-- The registry at the start. -/
def Start.registry : Start → Registry
  | empty => .empty
  | builtin environment defaults => .builtin environment defaults

/-- The adapters that are registered at the start, in this order. -/
def Start.adapters : Start → List Adapter
  | empty => []
  | builtin environment defaults => Framework.all.map (⟨·, environment, defaults⟩)

/-- Whether an adapter is the one that was registered last for a framework. -/
structure IsLatest (history : List Adapter) (f : Framework) (a : Adapter) : Prop where
  framework_eq : a.framework = f
  exists_append : ∃ before after, history = before ++ a :: after ∧
    ∀ b ∈ after, b.framework ≠ f

theorem registerAll_append (r : Registry) (history history' : List Adapter) :
    r.registerAll (history ++ history') = (r.registerAll history).registerAll history' :=
  List.foldl_append

theorem Start.registry_eq (start : Start) :
    start.registry = Registry.empty.registerAll start.adapters := by
  cases start with
  | empty => rfl
  | builtin environment defaults => exact builtin_eq_register environment defaults

/-- What one registration changes. -/
theorem get?_register (r : Registry) (a : Adapter) (f : Framework) :
    (r.register a).get? f = if a.framework = f then some a else r.get? f := by
  by_cases h : a.framework = f
  · rw [if_pos h, ← h, get?_register_self]
  · rw [if_neg h, get?_register_of_ne r (Ne.symm h)]

/-- What is there after a sequence of registrations is the last one of them for the framework, or
else what was there before. -/
theorem get?_registerAll (r : Registry) (history : List Adapter) (f : Framework) :
    (r.registerAll history).get? f =
      (history.reverse.find? (·.framework = f)).or (r.get? f) := by
  induction history generalizing r with
  | nil => rfl
  | cons a history ih =>
    -- The first registration counts only where no later one is for the framework.
    have hstep : (r.register a).get? f = ([a].find? (·.framework = f)).or (r.get? f) := by
      rw [get?_register]
      by_cases h : a.framework = f <;> simp [h]
    rw [List.reverse_cons, List.find?_append, Option.or_assoc, ← hstep]
    exact ih (r.register a)

section Latest

variable {history : List Adapter} {f : Framework} {a : Adapter}

theorem get?_registerAll_empty_eq_some_iff :
    (empty.registerAll history).get? f = some a ↔ IsLatest history f a := by
  rw [get?_registerAll, show empty.get? f = none from rfl, Option.or_none,
    List.find?_eq_some_iff_append]
  constructor
  · rintro ⟨hf, after, before, hreverse, hafter⟩
    refine ⟨of_decide_eq_true hf, before.reverse, after.reverse, ?_, fun b hb => ?_⟩
    · simpa using congrArg List.reverse hreverse
    · simpa using hafter b (List.mem_reverse.1 hb)
  · rintro ⟨hf, before, after, rfl, hafter⟩
    refine ⟨decide_eq_true hf, after.reverse, before.reverse, by simp, fun b hb => ?_⟩
    simpa using hafter b (List.mem_reverse.1 hb)

theorem get?_registerAll_empty_eq_none_iff :
    (empty.registerAll history).get? f = none ↔ ∀ a ∈ history, a.framework ≠ f := by
  rw [get?_registerAll, show empty.get? f = none from rfl, Option.or_none, List.find?_eq_none]
  simp

theorem mem_frameworks_registerAll_empty :
    f ∈ (empty.registerAll history).frameworks ↔ ∃ a ∈ history, a.framework = f := by
  rw [mem_frameworks, Option.isSome_iff_ne_none, Ne, get?_registerAll_empty_eq_none_iff]
  simp

end Latest

end Registry

/-! ## Results of an adapter -/

/-- The options in force when an adapter is asked for a result: an option that the call leaves open
is that of the adapter. -/
def Adapter.optionsUnder (a : Adapter) (overrides : Overrides) : Options where
  normalizeFilePaths :=
    match overrides.normalizeFilePaths with
    | some normalize => normalize
    | none => a.defaults.normalizeFilePaths
  includeConsoleOutput :=
    match overrides.includeConsoleOutput with
    | some keep => keep
    | none => a.defaults.includeConsoleOutput

/-- Whether a result of an output has framework, host and options of an adapter and a call. -/
structure Report.IsFrom (a : Adapter) (overrides : Overrides) (output : String) (now : Instant)
    (r : Report) : Prop where
  framework_eq : r.metadata.framework = a.framework.name
  environment_eq : r.metadata.environment = a.environment
  /-- What can be decoded is decoded with the options in force. -/
  eq_of_decode : ∀ decoded,
    a.framework.decode a.environment (a.optionsUnder overrides) output now = .ok decoded →
      r = decoded
  /-- What cannot be decoded gets the result that says so. -/
  eq_of_error : ∀ e,
    a.framework.decode a.environment (a.optionsUnder overrides) output now = .error e →
      r = .degraded a.framework a.environment output e now
  /-- Captured output is there if it is to be kept, with paths as they are to be written. -/
  console_eq :
    let console := a.console (some (a.optionsUnder overrides).normalizeFilePaths) output
    r.console? a.framework =
      if (a.optionsUnder overrides).includeConsoleOutput = true ∧ console ≠ [] then
        some (.arr console)
      else none

namespace Adapter

variable (a : Adapter) (overrides : Overrides) (output : String) (now : Instant)

theorem apply_eq_optionsUnder : overrides.apply a.defaults = a.optionsUnder overrides := by
  obtain ⟨normalize, keep⟩ := overrides
  cases normalize <;> cases keep <;> rfl

theorem console?_parse :
    let console := a.console (some (a.optionsUnder overrides).normalizeFilePaths) output
    (a.parse overrides output now).console? a.framework =
      if (a.optionsUnder overrides).includeConsoleOutput = true ∧ console ≠ [] then
        some (.arr console)
      else none := by
  intro console
  have hoptions := a.apply_eq_optionsUnder overrides
  cases hread : a.framework.read? output.toList with
  | error e =>
    have hconsole : console = [] := console_of_read?_error _ hread
    rw [parse_of_read?_error hread, hconsole, if_neg fun h => h.2 rfl]
    rfl
  | ok written =>
    have hconsole : console = written.console (a.optionsUnder overrides).normalizeFilePaths :=
      console_of_read?_ok _ hread
    obtain ⟨r, others, hothers, heq⟩ := written.exists_toReport_eq a.environment
      (a.optionsUnder overrides).normalizeFilePaths now
    rw [parse_of_read?_ok hread, hoptions, heq, ← hconsole, Framework.framework_of_read? hread,
      Report.console?_withDetails r _ hothers]
    cases (a.optionsUnder overrides).includeConsoleOutput <;> cases console <;> simp

theorem isFrom_parse : (a.parse overrides output now).IsFrom a overrides output now where
  framework_eq := (a.wellFormed_parse overrides output now).framework_eq
  environment_eq := (a.wellFormed_parse overrides output now).environment_eq
  eq_of_decode decoded hdecode := by
    rw [← apply_eq_optionsUnder] at hdecode
    unfold parse decode
    rw [hdecode]
  eq_of_error e hdecode := by
    rw [← apply_eq_optionsUnder] at hdecode
    unfold parse decode
    rw [hdecode]
  console_eq := a.console?_parse overrides output now

end Adapter

/-! ## What a history leaves -/

/-- A registry after any sequence of registrations, from either start. For a framework it has the
adapter that was registered last for it, and none exactly if there was none; one more registration
changes nothing for the other frameworks. Its frameworks are those for which there was one, each
once and in the order of names. An output goes to the adapter for the framework that is declared, or
else guessed, or else to that of Mocha. And the adapter that is selected is the latest registration
for this framework, and its results have that framework, its host, and its defaults where the call
leaves an option open. -/
theorem Registry.registerAll_laws (start : Start) (history : List Adapter) :
    let r := start.registry.registerAll history
    let registered := start.adapters ++ history
    (∀ f, (∀ a, r.get? f = some a ↔ IsLatest registered f a) ∧
      (r.get? f = none ↔ ∀ a ∈ registered, a.framework ≠ f)) ∧
    (∀ a f, f ≠ a.framework → (r.register a).get? f = r.get? f) ∧
    (r.frameworks.Nodup ∧ (r.frameworks.Pairwise fun f g => f.name < g.name) ∧
      ∀ f, f ∈ r.frameworks ↔ ∃ a ∈ registered, a.framework = f) ∧
    (∀ output, (∀ f, r.select output (some f) = r.get? f) ∧
      (∀ f, Framework.sniff output.toList = some f → r.select output none = r.get? f) ∧
      (Framework.sniff output.toList = none → r.select output none = r.get? .mocha)) ∧
    ∀ output declared a, r.select output declared = some a →
      IsLatest registered (Framework.choose output declared) a ∧
        ∀ overrides now, (a.parse overrides output now).IsFrom a overrides output now := by
  intro r registered
  have hr : r = empty.registerAll registered := by
    rw [registerAll_append, ← start.registry_eq]
  refine ⟨fun f => ⟨fun a => ?_, ?_⟩, fun a f hne => get?_register_of_ne r hne,
    ⟨r.nodup_frameworks, r.pairwise_frameworks, fun f => ?_⟩,
    fun output => ⟨fun f => rfl, fun f hsniff => ?_, fun hsniff => ?_⟩,
    fun output declared a hselect => ⟨?_, fun overrides now => ?_⟩⟩
  · rw [hr]
    exact get?_registerAll_empty_eq_some_iff
  · rw [hr]
    exact get?_registerAll_empty_eq_none_iff
  · rw [hr]
    exact mem_frameworks_registerAll_empty
  · rw [select, Framework.choose, hsniff]
    rfl
  · rw [select, Framework.choose, hsniff]
    rfl
  · rw [hr] at hselect
    exact get?_registerAll_empty_eq_some_iff.1 hselect
  · exact a.isFrom_parse overrides output now

/-- A Jest report with console output of a file whose path has a backslash. -/
def spokenOutput : String :=
  "\x7b\"numTotalTests\":0,\"testResults\":[" ++
  "\x7b\"name\":\"a\\\\b.js\",\"console\":[\x7b\"message\":\"hi\"\x7d]\x7d]\x7d"

/-- What is said in `spokenOutput`, with a path of the file. -/
def spokenConsole (path : String) : List Json :=
  [.obj [("file", .str path), ("message", .str "hi"), ("origin", .null), ("type", .null)]]

theorem Framework.exists_read?_spokenOutput :
    ∃ written, jest.read? spokenOutput.toList = .ok written ∧
      written.console true = spokenConsole "a/b.js" ∧
      written.console false = spokenConsole "a\\b.js" := by
  have hchecked : (jest.read? spokenOutput.toList).toOption.any (fun written =>
      decide (written.console true = spokenConsole "a/b.js" ∧
        written.console false = spokenConsole "a\\b.js")) = true := by
    unfold spokenOutput
    simp only [String.toList_append]
    decide +kernel
  obtain ⟨written, hread, hconsole⟩ := exists_of_any_read? hchecked
  exact ⟨written, hread, of_decide_eq_true hconsole⟩

/-- The adapter for Jest is replaced twice, with an adapter for Mocha in between. Results are of the
host that was registered last, and take from its defaults what the call leaves open. -/
theorem Registry.registerAll_laws_replacedTwice :
    let latest : Adapter := ⟨.jest, ⟨"3", "", ""⟩, ⟨false, true⟩⟩
    let r := (Start.builtin ⟨"1", "", ""⟩ {}).registry.registerAll
      [⟨.jest, ⟨"2", "", ""⟩, ⟨true, false⟩⟩, ⟨.mocha, ⟨"2", "", ""⟩, {}⟩, latest]
    (r.register latest).get? .mocha = r.get? .mocha ∧
      r.select spokenOutput none = r.get? .jest ∧ r.select "" none = r.get? .mocha ∧
      r.select spokenOutput none = some latest ∧
      (latest.parse {} spokenOutput .epoch).metadata.environment.runtime = "3" ∧
      (latest.parse {} spokenOutput .epoch).console? .jest =
        some (.arr (spokenConsole "a\\b.js")) ∧
      (latest.parse ⟨some true, none⟩ spokenOutput .epoch).console? .jest =
        some (.arr (spokenConsole "a/b.js")) ∧
      (latest.parse ⟨none, some false⟩ spokenOutput .epoch).console? .jest = none := by
  intro latest r
  have hguess : Framework.sniff spokenOutput.toList = some .jest := by
    unfold spokenOutput
    simp only [String.toList_append]
    decide +kernel
  have hnoGuess : Framework.sniff "".toList = none := by decide
  obtain ⟨-, hother, -, hselect, hparse⟩ := registerAll_laws (.builtin ⟨"1", "", ""⟩ {})
    [⟨.jest, ⟨"2", "", ""⟩, ⟨true, false⟩⟩, ⟨.mocha, ⟨"2", "", ""⟩, {}⟩, latest]
  obtain ⟨-, hguessed, -⟩ := hselect spokenOutput
  have hselected : r.select spokenOutput none = some latest := (hguessed .jest hguess).trans rfl
  have hresult := (hparse spokenOutput none latest hselected).2
  obtain ⟨written, hread, hslashed, hplain⟩ := Framework.exists_read?_spokenOutput
  have hsaid : ∀ normalize, latest.console (some normalize) spokenOutput =
      written.console normalize :=
    fun normalize => Adapter.console_of_read?_ok (a := latest) (some normalize) hread
  have hkept : ∀ normalize path, written.console normalize = spokenConsole path →
      (if true = true ∧ latest.console (some normalize) spokenOutput ≠ [] then
        some (Json.arr (latest.console (some normalize) spokenOutput)) else none) =
          some (.arr (spokenConsole path)) := by
    intro normalize path hpath
    rw [hsaid, hpath]
    rfl
  refine ⟨hother latest .mocha (by decide), hguessed .jest hguess, (hselect "").2.2 hnoGuess,
    hselected, ?_, ?_, ?_, ?_⟩
  · rw [(hresult {} .epoch).environment_eq]
  · exact (hresult {} .epoch).console_eq.trans (hkept false "a\\b.js" hplain)
  · exact (hresult ⟨some true, none⟩ .epoch).console_eq.trans (hkept true "a/b.js" hslashed)
  · exact (hresult ⟨none, some false⟩ .epoch).console_eq.trans (if_neg fun h => nomatch h.1)

end TestReport
