import TestReport.Proofs.Decoded
import TestReport.Query

/-!
# Outputs that cannot be read

A result says in one flag whether it stands for an output that cannot be read. The flag is enough
to know the whole result: `Report.IsDegraded` lists what such a result has, field by field, and
the flag is set on no other result (`Adapter.parse_degraded_iff`).

Three decoders fail in many places, after more or less of the output has been taken in. None of that
shows: whether they fail, and with which error, is up to the output alone
(`Framework.decode_eq_error_iff`), and of the error the degraded result takes nothing but its words.
In the other direction no report that is read can set the flag, whatever it holds
(`WrittenReport.parseError_toReport`).
-/

namespace TestReport

/-! ## Degraded results -/

/-- The one suite of a degraded result, with its one test. -/
structure Suite.IsParseError (framework : Framework) (suite : Suite) : Prop where
  status_eq : suite.status = .failed
  exists_test : ∃ test failure, suite.tests = [test] ∧ test.id = "parse-error" ∧
    test.status = .failed ∧ test.error = some failure ∧ failure.kind = "ParseError" ∧
    failure.message.toList <+: failure.stack.toList ∧
    framework.name.toList <:+: failure.message.toList

/-- What the result of an output that cannot be read has. -/
structure Report.IsDegraded (framework : Framework) (output : String) (r : Report) : Prop where
  parseError_eq : r.metadata.parseError = true
  success_eq : r.summary.success = false
  failedTests_eq : r.summary.failedTests = 1
  totalTests_eq : r.summary.totalTests = 0
  passedTests_eq : r.summary.passedTests = 0
  skippedTests_eq : r.summary.skippedTests = 0
  duration_eq : r.summary.duration = 0
  coverage_eq : r.coverage = none
  exists_suite : ∃ suite, r.suites = [suite] ∧ suite.IsParseError framework
  version_eq : r.metadata.version = "unknown"
  namespaces_eq : r.metadata.namespaces = []
  rawOutput_eq : r.metadata.rawOutput =
    some (if output.length ≤ 1000 then output
      else String.ofList (output.toList.take 1000) ++ "...")
  length_failed : r.failedTests.length = 1
  passed_eq : r.passedTests = []
  skipped_eq : r.skippedTests = []

theorem Text.excerpt_eq (limit : Nat) (text : String) :
    Text.excerpt limit text =
      if text.length ≤ limit then text
      else String.ofList (text.toList.take limit) ++ "..." := by
  have hempty : (text.toList.drop limit).isEmpty = true ↔ text.length ≤ limit := by
    rw [List.isEmpty_iff, List.drop_eq_nil_iff, String.length_toList]
  unfold Text.excerpt
  by_cases hshort : text.length ≤ limit
  · rw [if_pos hshort, if_pos (hempty.2 hshort)]
  · rw [if_neg hshort, if_neg (mt hempty.1 hshort), String.ofList_append, String.ofList_toList]

/-- The stack of an error starts with its message, and the message names the framework. -/
theorem ExtractError.isParseError (e : ExtractError) (framework : Framework) :
    ({ name := "Parse Error", status := .failed, tests := [e.test framework] } :
      Suite).IsParseError framework where
  status_eq := rfl
  exists_test := by
    refine ⟨e.test framework, e.failure framework, rfl, rfl, rfl, rfl, rfl, ?_, ?_⟩
    · unfold failure
      cases e.cause? with
      | none => exact List.prefix_refl _
      | some cause =>
        exact ⟨"\n  caused by: ".toList ++ cause.toList, by simp⟩
    · unfold failure
      simp only [String.toList_append]
      exact ⟨"Failed to parse ".toList, " output: ".toList ++ e.message.toList, by simp⟩

theorem Report.isDegraded_degraded (framework : Framework) (environment : Environment)
    (output : String) (e : ExtractError) (now : Instant) :
    (Report.degraded framework environment output e now).IsDegraded framework output where
  parseError_eq := rfl
  success_eq := rfl
  failedTests_eq := rfl
  totalTests_eq := rfl
  passedTests_eq := rfl
  skippedTests_eq := rfl
  duration_eq := rfl
  coverage_eq := rfl
  exists_suite := ⟨_, rfl, e.isParseError framework⟩
  version_eq := rfl
  namespaces_eq := rfl
  rawOutput_eq := congrArg some (Text.excerpt_eq rawOutputLimit output)
  length_failed := rfl
  passed_eq := rfl
  skipped_eq := rfl

/-! ## When decoding fails -/

theorem Framework.decode_eq_error_iff {framework : Framework} {environment : Environment}
    {options : Options} {output : String} {now : Instant} {e : ExtractError} :
    framework.decode environment options output now = .error e ↔
      framework.read? output.toList = .error e := by
  rw [decode_eq_map_read?]
  cases framework.read? output.toList <;> simp [Except.map]

theorem Framework.exists_decode_iff {framework : Framework} {environment : Environment}
    {options : Options} {output : String} {now : Instant} :
    (∃ r, framework.decode environment options output now = .ok r) ↔
      ∃ written, framework.read? output.toList = .ok written := by
  rw [decode_eq_map_read?]
  cases framework.read? output.toList <;> simp [Except.map]

/-- No report that is read is taken for one that cannot be read. -/
theorem WrittenReport.parseError_toReport (written : WrittenReport) (environment : Environment)
    (options : Options) (now : Instant) :
    (written.toReport environment options now).metadata.parseError = false := by
  cases written <;> rfl

/-- The flag of a result tells whether the output could be read. -/
theorem Adapter.parseError_iff_read? {a : Adapter} {overrides : Overrides} {output : String}
    {now : Instant} :
    (a.parse overrides output now).metadata.parseError = true ↔
      ∃ e, a.framework.read? output.toList = .error e := by
  cases hread : a.framework.read? output.toList with
  | ok written =>
    rw [Adapter.parse_of_read?_ok hread, written.parseError_toReport]
    simp
  | error e =>
    rw [Adapter.parse_of_read?_error hread]
    simp [Report.degraded]

theorem Adapter.parseError_eq_false_iff {a : Adapter} {overrides : Overrides} {output : String}
    {now : Instant} :
    (a.parse overrides output now).metadata.parseError = false ↔
      ∃ written, a.framework.read? output.toList = .ok written := by
  rw [← Bool.not_eq_true, parseError_iff_read?]
  cases a.framework.read? output.toList <;> simp

/-- A result is marked exactly when decoding fails, and it is then degraded in every respect. What
the error is does not depend on options or clock. -/
theorem Adapter.parse_degraded_iff (a : Adapter) (overrides : Overrides) (output : String)
    (now : Instant) :
    ((a.parse overrides output now).metadata.parseError = true ↔
      ∃ e, a.decode (overrides.apply a.defaults) output now = .error e) ∧
    (∀ options options' now' e,
      a.decode options output now = .error e ↔ a.decode options' output now' = .error e) ∧
    ((a.parse overrides output now).metadata.parseError = true ↔
      (a.parse overrides output now).IsDegraded a.framework output) := by
  have hfails : ∀ options now e, a.decode options output now = .error e ↔
      a.framework.read? output.toList = .error e :=
    fun _ _ _ => Framework.decode_eq_error_iff
  refine ⟨?_, ?_, ?_⟩
  · rw [parseError_iff_read?]
    exact exists_congr fun e => (hfails _ now e).symm
  · intro options options' now' e
    exact (hfails options now e).trans (hfails options' now' e).symm
  · refine ⟨fun hflag => ?_, fun hdegraded => hdegraded.parseError_eq⟩
    obtain ⟨e, hread⟩ := parseError_iff_read?.1 hflag
    rw [parse_of_read?_error hread]
    exact Report.isDegraded_degraded a.framework a.environment output e now

end TestReport
