import TestReport.Proofs.Counts

/-!
# The questions share out all tests

A result answers three questions about its tests: which failed, which passed and which were skipped.
The answers share the tests out. Going through the tests in the order in which they were found, each
of them goes to the end of one answer and of no other (`Dealt`), with the name of its suite and with
its own file or else the suite's (`Report.located`). This is said of places in the order and not of
tests, so it also holds where the same test comes twice.

A summary that is tallied from the suites counts these answers (`Summary.CountsAnswers`). The tally
sorts outcomes on its own and never looks at an answer, so that the numbers agree is a fact about
both.
-/

namespace TestReport

/-! ## Sharing out -/

/-- The tests of a result in the order of discovery, each with the name of its suite and with its
own file, or else the suite's. The file stands beside the test and not in it. -/
def Report.located (r : Report) : List LocatedTest :=
  r.suites.flatMap fun suite => suite.tests.map fun t =>
    { test := { t with filePath := none }
      suiteName := suite.name
      filePath := t.filePath.getD suite.filePath }

/-- How some tests are shared out: each of them, in turn, is next in the list for its outcome. -/
inductive Dealt : (all failed passed skipped : List LocatedTest) → Prop
  | nil : Dealt [] [] [] []
  | toFailed {t : LocatedTest} {all failed passed skipped : List LocatedTest}
      (h : t.test.status = .failed ∨ t.test.status = .timedOut)
      (rest : Dealt all failed passed skipped) : Dealt (t :: all) (t :: failed) passed skipped
  | toPassed {t : LocatedTest} {all failed passed skipped : List LocatedTest}
      (h : t.test.status = .passed) (rest : Dealt all failed passed skipped) :
      Dealt (t :: all) failed (t :: passed) skipped
  | toSkipped {t : LocatedTest} {all failed passed skipped : List LocatedTest}
      (h : t.test.status = .skipped ∨ t.test.status = .todo)
      (rest : Dealt all failed passed skipped) : Dealt (t :: all) failed passed (t :: skipped)

namespace Dealt

variable {all failed passed skipped : List LocatedTest}

theorem sublist_all (h : Dealt all failed passed skipped) :
    failed.Sublist all ∧ passed.Sublist all ∧ skipped.Sublist all := by
  induction h with
  | nil => exact ⟨.slnil, .slnil, .slnil⟩
  | toFailed _ _ ih => exact ⟨ih.1.cons_cons _, ih.2.1.cons _, ih.2.2.cons _⟩
  | toPassed _ _ ih => exact ⟨ih.1.cons _, ih.2.1.cons_cons _, ih.2.2.cons _⟩
  | toSkipped _ _ ih => exact ⟨ih.1.cons _, ih.2.1.cons _, ih.2.2.cons_cons _⟩

theorem append_perm_all (h : Dealt all failed passed skipped) :
    (failed ++ passed ++ skipped).Perm all := by
  induction h with
  | nil => exact .refl _
  | toFailed _ _ ih => exact ih.cons _
  | toPassed _ _ ih =>
    rw [List.append_assoc] at ih ⊢
    exact List.perm_middle.trans (ih.cons _)
  | toSkipped _ _ ih => exact List.perm_middle.trans (ih.cons _)

/-- Filtering by the three classes of outcomes shares a list out. -/
theorem of_filter (all : List LocatedTest) :
    Dealt all (all.filter fun t => t.test.status.isFailure)
      (all.filter fun t => t.test.status.isPassed)
      (all.filter fun t => t.test.status.isSkipped) := by
  induction all with
  | nil => exact .nil
  | cons t rest ih =>
    simp only [List.filter_cons]
    cases ht : t.test.status with
    | failed => exact .toFailed (.inl ht) ih
    | timedOut => exact .toFailed (.inr ht) ih
    | passed => exact .toPassed ht ih
    | skipped => exact .toSkipped (.inl ht) ih
    | todo => exact .toSkipped (.inr ht) ih

end Dealt

/-! ## Answers -/

namespace Report

/-- A question goes through all tests in the order of discovery. -/
theorem locatedTests_eq_filter (r : Report) (p : Status → Bool) :
    r.locatedTests p = r.located.filter fun t => p t.test.status := by
  rw [locatedTests, located, List.filter_flatMap]
  refine congrArg (r.suites.flatMap ·) (funext fun suite => ?_)
  rw [List.filter_map]
  rfl

theorem map_test_located (r : Report) :
    r.located.map (·.test) = (allTests r.suites).map fun t => { t with filePath := none } := by
  simp [located, allTests, List.map_flatMap, Function.comp_def]

theorem length_located (r : Report) : r.located.length = (allTests r.suites).length := by
  simpa using congrArg List.length r.map_test_located

theorem dealt_located (r : Report) :
    Dealt r.located r.failedTests r.passedTests r.skippedTests := by
  rw [failedTests, passedTests, skippedTests, locatedTests_eq_filter, locatedTests_eq_filter,
    locatedTests_eq_filter]
  exact .of_filter r.located

end Report

/-! ## Counts -/

/-- A summary counts what is answered, and is a success if nothing failed. -/
structure Summary.CountsAnswers (s : Summary) (r : Report) : Prop where
  failed_eq : s.failedTests.toNat = r.failedTests.length
  passed_eq : s.passedTests.toNat = r.passedTests.length
  skipped_eq : s.skippedTests.toNat = r.skippedTests.length
  total_eq : s.totalTests.toNat =
    r.failedTests.length + r.passedTests.length + r.skippedTests.length
  success_iff : s.success = true ↔ ∀ t ∈ allTests r.suites, t.status.isFailure = false

theorem Summary.countsAnswers_tally {r : Report} (hfew : (allTests r.suites).length < 2 ^ 64) :
    (Summary.tally r.suites).CountsAnswers r := by
  have hcount : ∀ p, (countTests p (allTests r.suites)).toNat = (r.locatedTests p).length := by
    intro p
    have hle : statusCount p (allTests r.suites) < 2 ^ 64 :=
      Nat.lt_of_le_of_lt List.countP_le_length hfew
    rw [r.length_locatedTests]
    exact UInt64.toNat_ofNat_of_lt hle
  refine ⟨hcount _, hcount _, hcount _, ?_, ?_⟩
  · have htotal : (Summary.tally r.suites).totalTests.toNat = (allTests r.suites).length :=
      UInt64.toNat_ofNat_of_lt hfew
    rw [htotal, ← r.length_located, ← r.dealt_located.append_perm_all.length_eq, List.length_append,
      List.length_append]
  · have hzero : (Summary.tally r.suites).success = true ↔
        (countTests Status.isFailure (allTests r.suites)).toNat = 0 := by
      rw [← UInt64.toNat_zero, UInt64.toNat_inj]
      exact beq_iff_eq
    rw [hzero, hcount, r.length_locatedTests, statusCount, List.countP_eq_zero]
    simp only [Bool.not_eq_true]

theorem Summary.toNat_duration_tally (suites : List Suite) :
    (Summary.tally suites).duration.toNat = min (totalMillis (allTests suites)) (2 ^ 64 - 1) := by
  have hsum := toNat_sumSat ((allTests suites).map (·.duration))
  rwa [List.map_map] at hsum

/-- The three questions share out the tests of any result: each answer keeps the order of discovery,
every test comes in exactly one of them and once for each time it is there. A tally of the suites
adds up the durations of all tests. It counts the answers, and is a success exactly if no test
failed, where the tests can be counted with words, as those of a result in memory can. -/
theorem Report.queries_share_out (r : Report) :
    Dealt r.located r.failedTests r.passedTests r.skippedTests ∧
      (r.located.map (·.test) = (allTests r.suites).map fun t => { t with filePath := none }) ∧
      (r.failedTests.Sublist r.located ∧ r.passedTests.Sublist r.located ∧
        r.skippedTests.Sublist r.located) ∧
      (r.failedTests ++ r.passedTests ++ r.skippedTests).Perm r.located ∧
      (Summary.tally r.suites).duration.toNat =
        min ((allTests r.suites).map (·.duration.toNat)).sum (2 ^ 64 - 1) ∧
      ((allTests r.suites).length < 2 ^ 64 → (Summary.tally r.suites).CountsAnswers r) :=
  ⟨r.dealt_located, r.map_test_located, r.dealt_located.sublist_all,
    r.dealt_located.append_perm_all, Summary.toNat_duration_tally r.suites,
    Summary.countsAnswers_tally⟩

/-- A result with the same test twice in one suite and once more in another. -/
def repeatedTests : Report :=
  let t : Test := { id := "t", status := .timedOut, duration := 18446744073709551615 }
  { suites := [
      { name := "S", filePath := "s.js", tests := [t, { id := "u", status := .todo }, t] },
      { name := "R", filePath := "r.js", tests := [{ t with filePath := some "own.js" }] }] }

theorem Report.queries_share_out_repeatedTests :
    (allTests repeatedTests.suites).length < 2 ^ 64 ∧
      (Summary.tally repeatedTests.suites).CountsAnswers repeatedTests ∧
      repeatedTests.failedTests.map (fun t => (t.suiteName, t.filePath)) =
        [("S", "s.js"), ("S", "s.js"), ("R", "own.js")] := by
  have hfew : (allTests repeatedTests.suites).length < 2 ^ 64 := by decide
  obtain ⟨-, -, -, -, -, hcounts⟩ := repeatedTests.queries_share_out
  exact ⟨hfew, hcounts hfew, by decide⟩

end TestReport
