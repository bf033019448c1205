import TestReport.Proofs.Containers
import TestReport.Proofs.Counts

/-!
# Files that failed

A Jest report gives each file an outcome of its own. The result does not rely on it: a file is a
failure (`JestFile.IsFailure`) for an assertion that failed, or if it could not be run, which shows
in a failed file with a message and without assertions. A file that is called failed while all its
assertions passed is no failure, and neither is one without assertions that does not say why it
failed.

`Adapter.success_eq_false_iff` says that a result is no success exactly if some file is a failure.
It needs the counter of failed tests to be right where it is given, since the summary goes by that
counter. Files that could not be run are counted on top of it, and no number of them makes a sum
that is zero: each failure takes an object of the report, and the text has no room for so many that
a word overflows (`JestReport.failures_le_length`).
-/

namespace TestReport

open Json (itemsWeight membersWeight)

/-! ## Failures of a report -/

/-- A file with an assertion that failed, or that could not be run and says why. -/
def JestFile.IsFailure (f : JestFile) : Prop :=
  (∃ x ∈ f.assertions, x.outcome.isFailure = true) ∨
    f.assertions = [] ∧ f.status = "failed" ∧
      ∃ m, (f.message = some m ∨ f.failureMessage = some m) ∧ Text.isAllBlank m.toList = false

/-- The failures of a file: assertions that failed, or the file itself if it could not be run. -/
def JestFile.failures (f : JestFile) : Nat :=
  f.assertions.countP (·.outcome.isFailure) + if f.runError?.isSome then 1 else 0

theorem JestFile.isSome_runError?_iff {f : JestFile} :
    f.runError?.isSome = true ↔ f.assertions = [] ∧ f.status = "failed" ∧
      ∃ m, (f.message = some m ∨ f.failureMessage = some m) ∧ Text.isAllBlank m.toList = false := by
  by_cases hran : f.assertions = [] ∧ f.status = "failed"
  · rw [JestFile.runError?_eq_spoken? hran.1 hran.2, JestFile.isSome_spoken?_iff]
    simp [hran.1, hran.2]
  · have hnone : f.runError? = none :=
      if_neg fun h => hran ⟨List.isEmpty_iff.1 h.1, h.2⟩
    rw [hnone]
    refine iff_of_false nofun fun h => hran ⟨h.1, h.2.1⟩

theorem JestFile.failures_eq_zero_iff {f : JestFile} : f.failures = 0 ↔ ¬ f.IsFailure := by
  rw [JestFile.failures, JestFile.IsFailure, ← JestFile.isSome_runError?_iff, not_or,
    Nat.add_eq_zero_iff, List.countP_eq_zero]
  refine and_congr ?_ ?_
  · simp
  · cases f.runError?.isSome <;> simp

/-- The failures of a report are those of its files. -/
theorem JestReport.failures_eq_sum (r : JestReport) :
    r.countAssertions Status.isFailure + r.loadFailures = (r.files.map JestFile.failures).sum := by
  rw [countAssertions, assertions, loadFailures]
  induction r.files with
  | nil => rfl
  | cons f files ih =>
    rw [List.flatMap_cons, List.countP_append, List.countP_cons, List.map_cons, List.sum_cons, ← ih,
      JestFile.failures]
    omega

theorem JestReport.failures_eq_zero_iff {r : JestReport} :
    r.countAssertions Status.isFailure + r.loadFailures = 0 ↔ ∀ f ∈ r.files, ¬ f.IsFailure := by
  rw [failures_eq_sum, List.sum_eq_zero_iff_forall_eq_nat]
  simp only [List.forall_mem_map, JestFile.failures_eq_zero_iff]

/-! ## Room for failures -/

/-- Only an object can be an assertion that failed. -/
theorem JestAssertion.weight_pos_of_isFailure {v : Json}
    (h : (JestAssertion.ofPlain v).outcome.isFailure = true) : 0 < v.weight := by
  cases v with
  | obj members =>
    rw [Json.weight_obj]
    exact Nat.succ_pos _
  | arr items => cases h
  | null | bool _ | num _ | str _ => cases h

/-- Only an object can be a file that failed. -/
theorem JestFile.weight_pos_of_status {v : Json} (h : (JestFile.ofPlain v).status = "failed") :
    0 < v.weight := by
  have hempty : "" ≠ "failed" := by decide
  cases v with
  | obj members =>
    rw [Json.weight_obj]
    exact Nat.succ_pos _
  | arr items => exact absurd h hempty
  | null | bool _ | num _ | str _ => exact absurd h hempty

theorem JestFile.failures_ofPlain_le (v : Json) : (JestFile.ofPlain v).failures ≤ v.weight := by
  unfold JestFile.failures
  split
  next hran =>
    obtain ⟨hnone, hstatus, -⟩ := JestFile.isSome_runError?_iff.1 hran
    rw [hnone]
    exact JestFile.weight_pos_of_status hstatus
  next =>
    have hassertions : (JestFile.ofPlain v).assertions.countP (·.outcome.isFailure) =
        (v.itemsAt "assertionResults").countP fun item =>
          (JestAssertion.ofPlain item).outcome.isFailure := by
      rw [JestFile.ofPlain, List.countP_map]
      rfl
    rw [Nat.add_zero, hassertions]
    exact Nat.le_trans
      (Json.countP_le_itemsWeight (fun _ => JestAssertion.weight_pos_of_isFailure) _)
      (Json.itemsWeight_itemsAt_le v "assertionResults")

theorem JestReport.failures_ofPlain_le (v : Json) :
    (JestReport.ofPlain v).countAssertions Status.isFailure + (JestReport.ofPlain v).loadFailures ≤
      v.weight := by
  have hfiles : ∀ items : List Json,
      ((items.map JestFile.ofPlain).map JestFile.failures).sum ≤ itemsWeight items := by
    intro items
    induction items with
    | nil => exact Nat.le_refl _
    | cons item items ih =>
      rw [List.map_cons, List.map_cons, List.sum_cons, Json.itemsWeight_cons]
      exact Nat.add_le_add (JestFile.failures_ofPlain_le item) ih
  rw [failures_eq_sum]
  exact Nat.le_trans (hfiles _) (Json.itemsWeight_itemsAt_le v "testResults")

/-- A report that is read has no more failures than its output has characters. -/
theorem JestReport.failures_le_length {output : List Char} {r : JestReport}
    {coverage : Option Coverage} (h : Framework.jest.read? output = .ok (.jest r coverage)) :
    r.countAssertions Status.isFailure + r.loadFailures ≤ output.length := by
  obtain ⟨members, hmembers, hread⟩ := Json.bind_eq_ok.1 h
  obtain ⟨report, hreport, hlast⟩ := Json.bind_eq_ok.1 hread
  cases hlast
  have hlt := membersWeight_lt_of_locateReport hmembers
  unfold JestReport.ofMembers? at hreport
  split at hreport
  · cases hreport
  next v hv =>
    cases hreport
    have hshape := Json.weight_le_of_read Json.Shape.jestReport hv
    have hplain := JestReport.failures_ofPlain_le v
    rw [Json.weight_obj] at hshape
    omega

/-! ## Success -/

/-- A counter of failures, with others on top, is zero exactly if there is no failure. -/
theorem elim_counter_eq_zero_iff {counter : Option UInt64} {n added : Nat}
    (hn : n + added < 2 ^ 64) (h : IsCounterOf counter n) :
    counter.elim (UInt64.ofNat (n + added)) (addSat · (UInt64.ofNat added)) = 0 ↔
      n + added = 0 := by
  rw [← UInt64.toNat_inj, toNat_elim_counter hn h, UInt64.toNat_zero]

theorem JestReport.success_toReport_eq_false_iff {r : JestReport}
    (hcounter : IsCounterOf r.failedTests (r.countAssertions Status.isFailure))
    (hfew : r.countAssertions Status.isFailure + r.loadFailures < 2 ^ 64)
    (coverage : Option Coverage) (environment : Environment) (options : Options) (now : Instant) :
    (r.toReport coverage environment options now).summary.success = false ↔
      ∃ f ∈ r.files, f.IsFailure := by
  have hfailed : statusCount Status.isFailure (allTests (r.suites options)) =
      r.countAssertions Status.isFailure + r.loadFailures := by
    simp [statusCount_suites, Status.isFailure]
  have hsummary : (r.toReport coverage environment options now).summary.failedTests =
      r.failedTests.elim (UInt64.ofNat (r.countAssertions Status.isFailure + r.loadFailures))
        (addSat · (UInt64.ofNat r.loadFailures)) := by
    rw [← hfailed]
    rfl
  have hzero := elim_counter_eq_zero_iff hfew hcounter
  rw [← hsummary, failures_eq_zero_iff] at hzero
  show ((r.toReport coverage environment options now).summary.failedTests == 0) = false ↔ _
  rw [beq_eq_false_iff_ne, ne_eq, hzero]
  simp

/-- The result of a Jest report whose counter of failed tests is right, if it has one, is no success
exactly if some file has an assertion that failed, or failed with a message and without assertions.
Any text that fits into memory is short enough. -/
theorem Adapter.success_eq_false_iff {a : Adapter} (ha : a.framework = .jest) {output : String}
    {written : JestReport} {coverage : Option Coverage}
    (hread : Framework.jest.read? output.toList = .ok (.jest written coverage))
    (hcounter : IsCounterOf written.failedTests (written.countAssertions Status.isFailure))
    (hlength : output.length < 2 ^ 64) (overrides : Overrides) (now : Instant) :
    (a.parse overrides output now).summary.success = false ↔
      ∃ f ∈ written.files, f.IsFailure := by
  have hfew := JestReport.failures_le_length hread
  rw [String.length_toList] at hfew
  rw [parse_of_read?_ok (by rw [ha]; exact hread)]
  exact written.success_toReport_eq_false_iff hcounter (Nat.lt_of_le_of_lt hfew hlength) coverage
    a.environment (overrides.apply a.defaults) now

/-- A file that could not be run makes the result no success. -/
theorem Adapter.success_eq_false_unloadedFile :
    unloadedFileOutput.length < 2 ^ 64 ∧
      ∃ written coverage, Framework.jest.read? unloadedFileOutput.toList =
          .ok (.jest written coverage) ∧
        IsCounterOf written.failedTests (written.countAssertions Status.isFailure) ∧
        (Adapter.parse ⟨.jest, {}, {}⟩ {} unloadedFileOutput .epoch).summary.success = false := by
  have hlength : unloadedFileOutput.length < 2 ^ 64 := by
    unfold unloadedFileOutput
    simp only [String.length_append]
    decide +kernel
  have hfacts : (Framework.jest.read? unloadedFileOutput.toList).toOption.any (fun
      | .jest r _ => decide (r.SelfConsistent ∧ 0 < r.loadFailures)
      | _ => false) = true := by
    unfold unloadedFileOutput
    simp only [String.toList_append]
    decide +kernel
  obtain ⟨read, hread, hchecked⟩ := Framework.exists_of_any_read? hfacts
  refine ⟨hlength, ?_⟩
  cases read with
  | mocha | vitest => cases hchecked
  | jest written coverage =>
    obtain ⟨hself, hload⟩ := of_decide_eq_true hchecked
    refine ⟨written, coverage, hread, hself.failed_eq, ?_⟩
    refine (success_eq_false_iff rfl hread hself.failed_eq hlength {} .epoch).2 ?_
    obtain ⟨f, hf, hran⟩ := List.countP_pos_iff.1 hload
    exact ⟨f, hf, .inr (JestFile.isSome_runError?_iff.1 hran)⟩

/-! ## A failed file that goes unnoticed -/

/-- A Jest report with a file that failed, though the one test in it passed. -/
def passingFailedFileOutput : String :=
  "\x7b\"numTotalTests\":1,\"numPassedTests\":1,\"numFailedTests\":0,\"testResults\":[" ++
  "\x7b\"name\":\"a.test.js\",\"status\":\"failed\",\"message\":\"afterAll failed\"," ++
  "\"assertionResults\":[\x7b\"title\":\"t\",\"status\":\"passed\"\x7d]\x7d]\x7d"

/-- The counters are right, the file failed, and the result is a success. -/
theorem Adapter.success_of_failedFile_passing :
    (∃ written coverage, Framework.jest.read? passingFailedFileOutput.toList =
        .ok (.jest written coverage) ∧
      written.SelfConsistent ∧ ∃ f ∈ written.files, f.status = "failed") ∧
    (Adapter.parse ⟨.jest, {}, {}⟩ {} passingFailedFileOutput .epoch).summary.success = true := by
  have hfacts : (Framework.jest.read? passingFailedFileOutput.toList).toOption.any (fun
      | .jest r _ => decide (r.SelfConsistent ∧ (∃ f ∈ r.files, f.status = "failed") ∧
          r.countAssertions Status.isFailure + r.loadFailures = 0)
      | _ => false) = true := by
    unfold passingFailedFileOutput
    simp only [String.toList_append]
    decide +kernel
  obtain ⟨read, hread, hchecked⟩ := Framework.exists_of_any_read? hfacts
  cases read with
  | mocha | vitest => cases hchecked
  | jest written coverage =>
    obtain ⟨hself, hfailed, hnone⟩ := of_decide_eq_true hchecked
    have hfew : written.countAssertions Status.isFailure + written.loadFailures < 2 ^ 64 := by
      rw [hnone]
      exact Nat.two_pow_pos 64
    have hiff :=
      JestReport.success_toReport_eq_false_iff hself.failed_eq hfew coverage {} {} .epoch
    refine ⟨⟨written, coverage, hread, hself, hfailed⟩, ?_⟩
    rw [parse_of_read?_ok (a := ⟨.jest, {}, {}⟩) hread]
    by_contra hsuccess
    obtain ⟨f, hf, hfailure⟩ := hiff.1 (Bool.eq_false_iff.2 hsuccess)
    exact JestReport.failures_eq_zero_iff.1 hnone f hf hfailure

end TestReport
