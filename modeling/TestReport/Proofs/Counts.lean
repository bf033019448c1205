import TestReport.Proofs.Grouping
import TestReport.Proofs.Verdicts
import Mathlib.Tactic.MkIffOfInductiveProp

/-!
# Counts of a result

A result has its counts twice: in the summary, and in the tests that it lists. `Report.CountsAgree`
says that the two are the same. They need not be, since the counters of a report go into the summary
unchecked. They are when the report does not contradict itself (`WrittenReport.SelfConsistent`):
each counter that it gives is the number of its own entries of that class. A counter may be left
out, as the suites are counted in its place.

For each framework the tests of a class in the suites are as many as the entries of that class,
where Jest adds one failure for each file that could not be run, and leaves these files out of its
counters. So a counter and a count of the suites come to the same number, and it does not matter
which of them is used.

A counter is a word of 64 bits, so the numbers are the same only while there are fewer than `2 ^ 64`
tests.
-/

namespace TestReport

/-! ## Counts and lists -/

/-- Whether a test with this outcome counts as passed. -/
def Status.isPassed (s : Status) : Bool :=
  !s.isFailure && !s.isSkipped

/-- The number of tests in a list that fall into a class. -/
def statusCount (p : Status → Bool) (tests : List Test) : Nat :=
  tests.countP fun t => p t.status

/-- The summary of a result counts the tests that the result lists. -/
structure Report.CountsAgree (r : Report) : Prop where
  sum_eq : r.summary.totalTests.toNat =
    r.summary.passedTests.toNat + r.summary.failedTests.toNat + r.summary.skippedTests.toNat
  total_eq : r.summary.totalTests.toNat = (allTests r.suites).length
  passed_eq : r.summary.passedTests.toNat = r.passedTests.length
  failed_eq : r.summary.failedTests.toNat = r.failedTests.length
  skipped_eq : r.summary.skippedTests.toNat = r.skippedTests.length

theorem Report.length_locatedTests (r : Report) (p : Status → Bool) :
    (r.locatedTests p).length = statusCount p (allTests r.suites) := by
  rw [locatedTests, statusCount, allTests, List.length_flatMap, List.countP_flatMap]
  simp only [List.length_map, List.countP_eq_length_filter, Function.comp_def]

/-- Every test is in exactly one class. -/
theorem length_eq_statusCounts (tests : List Test) :
    tests.length = statusCount Status.isPassed tests + statusCount Status.isFailure tests +
      statusCount Status.isSkipped tests := by
  induction tests with
  | nil => rfl
  | cons t rest ih =>
    simp only [statusCount] at ih ⊢
    rw [List.length_cons, ih]
    cases ht : t.status <;>
      simp [ht, Status.isPassed, Status.isFailure, Status.isSkipped] <;> omega

/-- Counts of classes that are those of the suites agree in all respects. -/
theorem Report.countsAgree_of_toNat_eq {r : Report}
    (total_eq : r.summary.totalTests.toNat = (allTests r.suites).length)
    (passed_eq : r.summary.passedTests.toNat = statusCount Status.isPassed (allTests r.suites))
    (failed_eq : r.summary.failedTests.toNat = statusCount Status.isFailure (allTests r.suites))
    (skipped_eq : r.summary.skippedTests.toNat =
      statusCount Status.isSkipped (allTests r.suites)) :
    r.CountsAgree where
  sum_eq := by rw [total_eq, passed_eq, failed_eq, skipped_eq, length_eq_statusCounts]
  total_eq := total_eq
  passed_eq := passed_eq.trans (r.length_locatedTests Status.isPassed).symm
  failed_eq := failed_eq.trans (r.length_locatedTests Status.isFailure).symm
  skipped_eq := skipped_eq.trans (r.length_locatedTests Status.isSkipped).symm

/-! ## Counters -/

/-- Whether a counter is a number, as far as it is given. -/
def IsCounterOf (counter : Option UInt64) (n : Nat) : Prop :=
  ∀ w ∈ counter, w.toNat = n

instance (counter : Option UInt64) (n : Nat) : Decidable (IsCounterOf counter n) :=
  match counter with
  | none => isTrue nofun
  | some w => decidable_of_iff (w.toNat = n) (by simp [IsCounterOf])

theorem IsCounterOf.of_eq {counter : Option UInt64} {n m : Nat} (h : IsCounterOf counter n)
    (heq : m = n) : IsCounterOf counter m :=
  heq ▸ h

/-- A counter that is right gives the number that is counted where it is missing. -/
theorem toNat_getD_counter {counter : Option UInt64} {n : Nat} (hn : n < 2 ^ 64)
    (h : IsCounterOf counter n) : (counter.getD (UInt64.ofNat n)).toNat = n := by
  cases counter with
  | none => exact UInt64.toNat_ofNat_of_lt hn
  | some w => exact h w rfl

/-- The same of a counter to which something is added that the other number has in it already. -/
theorem toNat_elim_counter {counter : Option UInt64} {n added : Nat} (hn : n + added < 2 ^ 64)
    (h : IsCounterOf counter n) :
    (counter.elim (UInt64.ofNat (n + added)) (addSat · (UInt64.ofNat added))).toNat =
      n + added := by
  cases counter with
  | none => exact UInt64.toNat_ofNat_of_lt hn
  | some w =>
    have hw : w.toNat = n := h w rfl
    have hadded : (UInt64.ofNat added).toNat = added :=
      UInt64.toNat_ofNat_of_lt (Nat.lt_of_le_of_lt (Nat.le_add_left added n) hn)
    have hmax : maxWord = 2 ^ 64 - 1 := rfl
    rw [Option.elim_some, toNat_addSat, hw, hadded, hmax]
    omega

/-! ## Mocha -/

namespace MochaReport

/-- How many entries of a report are in a class. -/
def countEntries (r : MochaReport) (p : Status → Bool) : Nat :=
  r.entries.countP fun e => p e.2

/-- The statistics that are given are the numbers of entries. -/
@[mk_iff]
structure SelfConsistent (r : MochaReport) : Prop where
  tests_eq : IsCounterOf r.stats.tests (r.passes.length + r.failures.length + r.pending.length)
  passes_eq : IsCounterOf r.stats.passes r.passes.length
  failures_eq : IsCounterOf r.stats.failures r.failures.length
  pending_eq : IsCounterOf r.stats.pending r.pending.length

instance (r : MochaReport) : Decidable r.SelfConsistent :=
  decidable_of_iff' _ (selfConsistent_iff r)

theorem countEntries_eq (r : MochaReport) (p : Status → Bool) :
    r.countEntries p = (if p .passed then r.passes.length else 0) +
      (if p .failed then r.failures.length else 0) +
      (if p .skipped then r.pending.length else 0) := by
  have hconst : ∀ (entries : List MochaEntry) (s : Status),
      (entries.map (·, s)).countP (fun e => p e.2) = if p s then entries.length else 0 := by
    intro entries s
    rw [List.countP_map]
    cases hs : p s <;> simp [Function.comp_def, hs]
  simp only [countEntries, entries, List.countP_append, hconst]

theorem statusCount_suites (r : MochaReport) (options : Options) (p : Status → Bool) :
    statusCount p (allTests (r.suites options)) = r.countEntries p := by
  rw [statusCount, (r.allTests_suites_perm options).countP_eq]
  simp only [listed, countEntries, entries, MochaEntry.keyed, MochaEntry.test, List.map_append,
    List.countP_append, List.map_map, List.countP_map, Function.comp_def]

theorem countsAgree_toReport {r : MochaReport} (hself : r.SelfConsistent)
    (environment : Environment) (options : Options) (now : Instant)
    (hfew : (allTests (r.suites options)).length < 2 ^ 64) :
    (r.toReport environment options now).CountsAgree := by
  have hpassed : statusCount Status.isPassed (allTests (r.suites options)) = r.passes.length := by
    simp [statusCount_suites, countEntries_eq, Status.isPassed, Status.isFailure, Status.isSkipped]
  have hfailed : statusCount Status.isFailure (allTests (r.suites options)) =
      r.failures.length := by
    simp [statusCount_suites, countEntries_eq, Status.isFailure]
  have hskipped : statusCount Status.isSkipped (allTests (r.suites options)) =
      r.pending.length := by
    simp [statusCount_suites, countEntries_eq, Status.isSkipped]
  have hlength : (allTests (r.suites options)).length =
      r.passes.length + r.failures.length + r.pending.length := by
    rw [length_eq_statusCounts, hpassed, hfailed, hskipped]
  have hle : ∀ p, statusCount p (allTests (r.suites options)) < 2 ^ 64 :=
    fun _ => Nat.lt_of_le_of_lt List.countP_le_length hfew
  exact Report.countsAgree_of_toNat_eq
    (toNat_getD_counter hfew (hself.tests_eq.of_eq hlength))
    (toNat_getD_counter (hle Status.isPassed) (hself.passes_eq.of_eq hpassed))
    (toNat_getD_counter (hle Status.isFailure) (hself.failures_eq.of_eq hfailed))
    (toNat_getD_counter (hle Status.isSkipped) (hself.pending_eq.of_eq hskipped))

end MochaReport

/-! ## Jest -/

namespace JestReport

/-- The assertions of all files. -/
def assertions (r : JestReport) : List JestAssertion :=
  r.files.flatMap (·.assertions)

/-- How many assertions of a report are in a class. -/
def countAssertions (r : JestReport) (p : Status → Bool) : Nat :=
  r.assertions.countP fun a => p a.outcome

/-- How many files of a report could not be run. -/
def loadFailures (r : JestReport) : Nat :=
  r.files.countP fun f => f.runError?.isSome

/-- The counters that are given are the numbers of assertions. Of the two that count what was
skipped one may be given without the other. -/
@[mk_iff]
structure SelfConsistent (r : JestReport) : Prop where
  total_eq : IsCounterOf r.totalTests r.assertions.length
  passed_eq : IsCounterOf r.passedTests (r.countAssertions Status.isPassed)
  failed_eq : IsCounterOf r.failedTests (r.countAssertions Status.isFailure)
  skipped_eq : (r.pendingTests.isSome ∨ r.todoTests.isSome) →
    (r.pendingTests.getD 0).toNat + (r.todoTests.getD 0).toNat =
      r.countAssertions Status.isSkipped

instance (r : JestReport) : Decidable r.SelfConsistent :=
  decidable_of_iff' _ (selfConsistent_iff r)

theorem countP_listed (f : JestFile) (options : Options) (p : Status → Bool) :
    (f.listed options).countP (fun t => p t.2.status) =
      (f.assertions.countP fun a => p a.outcome) +
        if p .failed && f.runError?.isSome then 1 else 0 := by
  rw [f.listed_eq_map_tests, List.countP_map, JestFile.tests, List.countP_append, List.countP_map]
  congr 1
  cases f.runError? with
  | none => simp
  | some message => cases hp : p .failed <;> simp [JestFile.runFailure, hp]

/-- The tests of a class are the assertions of that class, and files that could not be run are
failures. -/
theorem statusCount_suites (r : JestReport) (options : Options) (p : Status → Bool) :
    statusCount p (allTests (r.suites options)) =
      r.countAssertions p + if p .failed then r.loadFailures else 0 := by
  rw [statusCount, (r.allTests_suites_perm options).countP_eq, List.countP_map, listed,
    countAssertions, assertions, loadFailures]
  induction r.files with
  | nil => simp
  | cons f files ih =>
    rw [List.flatMap_cons, List.countP_append, ih, List.flatMap_cons, List.countP_append,
      List.countP_cons]
    have hfile := countP_listed f options p
    simp only [Function.comp_def] at hfile ⊢
    rw [hfile]
    cases p .failed <;> cases f.runError?.isSome <;> simp <;> omega

theorem length_allTests_suites (r : JestReport) (options : Options) :
    (allTests (r.suites options)).length = r.assertions.length + r.loadFailures := by
  have hall := r.statusCount_suites options fun _ => true
  rwa [statusCount, countAssertions, List.countP_true, List.countP_true, if_pos rfl] at hall

theorem countsAgree_toReport {r : JestReport} (hself : r.SelfConsistent)
    (coverage : Option Coverage) (environment : Environment) (options : Options) (now : Instant)
    (hfew : (allTests (r.suites options)).length < 2 ^ 64) :
    (r.toReport coverage environment options now).CountsAgree := by
  have hpassed : statusCount Status.isPassed (allTests (r.suites options)) =
      r.countAssertions Status.isPassed := by
    simp [statusCount_suites, Status.isPassed, Status.isFailure]
  have hfailed : statusCount Status.isFailure (allTests (r.suites options)) =
      r.countAssertions Status.isFailure + r.loadFailures := by
    simp [statusCount_suites, Status.isFailure]
  have hskipped : statusCount Status.isSkipped (allTests (r.suites options)) =
      r.countAssertions Status.isSkipped := by
    simp [statusCount_suites, Status.isSkipped]
  have hlength := r.length_allTests_suites options
  have hle : ∀ p, statusCount p (allTests (r.suites options)) < 2 ^ 64 :=
    fun _ => Nat.lt_of_le_of_lt List.countP_le_length hfew
  refine Report.countsAgree_of_toNat_eq ?_
    (toNat_getD_counter (hle Status.isPassed) (hself.passed_eq.of_eq hpassed)) ?_ ?_
  · show (r.totalTests.elim (UInt64.ofNat (allTests (r.suites options)).length)
      (addSat · (UInt64.ofNat r.loadFailures))).toNat = (allTests (r.suites options)).length
    rw [hlength] at hfew ⊢
    exact toNat_elim_counter hfew hself.total_eq
  · show (r.failedTests.elim (UInt64.ofNat (statusCount Status.isFailure _))
      (addSat · (UInt64.ofNat r.loadFailures))).toNat =
        statusCount Status.isFailure (allTests (r.suites options))
    have hfewFailed := hle Status.isFailure
    rw [hfailed] at hfewFailed ⊢
    exact toNat_elim_counter hfewFailed hself.failed_eq
  · have hfewSkipped := hle Status.isSkipped
    show (if r.pendingTests.isNone ∧ r.todoTests.isNone then
        UInt64.ofNat (statusCount Status.isSkipped (allTests (r.suites options)))
      else addSat (r.pendingTests.getD 0) (r.todoTests.getD 0)).toNat =
        statusCount Status.isSkipped (allTests (r.suites options))
    by_cases hnone : r.pendingTests.isNone ∧ r.todoTests.isNone
    · rw [if_pos hnone]
      exact UInt64.toNat_ofNat_of_lt hfewSkipped
    · have hgiven : r.pendingTests.isSome ∨ r.todoTests.isSome := by
        cases hpending : r.pendingTests <;> cases htodo : r.todoTests <;> simp_all
      rw [hskipped] at hfewSkipped
      rw [if_neg hnone, toNat_addSat, hself.skipped_eq hgiven, hskipped]
      exact Nat.min_eq_left (Nat.le_sub_one_of_lt hfewSkipped)

end JestReport

/-! ## Vitest -/

namespace VitestRun

/-- The counts at the end of a run that events report, in order. -/
def ends (events : List VitestEvent) : List VitestTotals :=
  events.filterMap fun event => match event with
    | .runFinished totals => some totals
    | _ => none

/-- No test is reported twice, and the counts at the end are those of the tests. -/
@[mk_iff]
structure SelfConsistent (options : Options) (events : List VitestEvent) : Prop where
  nodup_key : ((outcomes events).map (·.key options)).Nodup
  totals_eq : ∀ totals ∈ ends events,
    totals.total.toNat = (outcomes events).length ∧
    totals.passed.toNat = countOutcomes Status.isPassed events ∧
    totals.failed.toNat = countOutcomes Status.isFailure events ∧
    totals.skipped.toNat = countOutcomes Status.isSkipped events

instance (options : Options) (events : List VitestEvent) :
    Decidable (SelfConsistent options events) :=
  decidable_of_iff' _ (selfConsistent_iff options events)

/-- A test of which nothing is stored yet comes on top of all others. -/
theorem allTests_place_perm {o : VitestOutcome} {options : Options} {suites : List Suite}
    (h : storedAt suites (o.path options) o.name = []) :
    (allTests (o.place options suites)).Perm (o.test options :: allTests suites) := by
  have hdominated : o.isDominated options suites = false := by
    have hheld : storedAt suites (o.path options) o.name = (none : Option Test).toList := h
    rw [isDominated_eq hheld]
    simp
  rw [VitestOutcome.place, if_neg (Bool.eq_false_iff.1 hdominated)]
  refine allTests_changeSuite_perm ?_
  have hfresh : ∀ t ∈ Suites.testsAt suites (o.names options).1 (o.path options),
      t.id ≠ (o.test options).id := by
    intro t ht hid
    rw [o.names_fst] at ht
    have hstored : t ∈ storedAt suites (o.path options) o.name :=
      List.mem_filter.2 ⟨ht, decide_eq_true hid⟩
    rw [h] at hstored
    cases hstored
  rw [← replaceTest_of_forall_ne hfresh, Suites.testsAt_eq_tests]
  rfl

theorem outcomes_concat (events : List VitestEvent) (event : VitestEvent) :
    outcomes (events ++ [event]) = outcomes events ++ event.outcome?.toList := by
  rw [outcomes, List.filterMap_append]
  cases h : event.outcome? <;> simp [outcomes, h]

/-- Where no test is reported twice, the suites hold all tests that are reported. -/
theorem allTests_foldl_perm {options : Options} {events : List VitestEvent}
    (h : ((outcomes events).map (·.key options)).Nodup) :
    (allTests (events.foldl (apply options) {}).suites).Perm
      ((outcomes events).map (·.test options)) := by
  induction events using List.reverseRecOn with
  | nil => exact List.Perm.refl _
  | append_singleton events event ih =>
    rw [outcomes_concat] at h ⊢
    rw [List.foldl_append, List.foldl_cons, List.foldl_nil, suites_apply]
    cases ho : event.outcome? with
    | none =>
      rw [ho] at h
      simpa using ih (by simpa using h)
    | some o =>
      rw [ho, Option.toList_some, List.map_append] at h
      obtain ⟨hnodup, -, hnew⟩ := List.nodup_append.1 h
      have hnone : ownOutcomes options (o.path options) o.name events = [] := by
        refine List.filter_eq_nil_iff.2 fun o' ho' hkey => ?_
        exact hnew _ (List.mem_map_of_mem ho') (o.key options) (by simp) (beq_iff_eq.1 hkey)
      have hstored : storedAt (events.foldl (apply options) {}).suites (o.path options) o.name =
          [] := by
        have hfold : storedAt (events.foldl (apply options) {}).suites (o.path options) o.name =
            (heldFor options (o.path options) o.name events).toList := storedAt_foldl events rfl
        rwa [heldFor, hnone] at hfold
      calc
        (allTests (o.place options (events.foldl (apply options) {}).suites)).Perm
            (o.test options :: allTests (events.foldl (apply options) {}).suites) :=
          allTests_place_perm hstored
        (o.test options :: allTests (events.foldl (apply options) {}).suites).Perm
            (o.test options :: (outcomes events).map (·.test options)) :=
          (ih hnodup).cons _
        (o.test options :: (outcomes events).map (·.test options)).Perm
            ((outcomes events ++ [o]).map (·.test options)) := by
          rw [List.map_append]
          exact (List.perm_append_singleton _ _).symm

theorem statusCount_suites {options : Options} {events : List VitestEvent}
    (h : ((outcomes events).map (·.key options)).Nodup) (p : Status → Bool) :
    statusCount p (allTests (events.foldl (apply options) {}).suites) = countOutcomes p events := by
  rw [statusCount, (allTests_foldl_perm h).countP_eq, List.countP_map]
  rfl

/-- The counts that a run has were given by one of its events. -/
theorem mem_ends_of_totals_foldl {options : Options} {events : List VitestEvent}
    {totals : VitestTotals} (h : (events.foldl (apply options) {}).totals = some totals) :
    totals ∈ ends events := by
  have hnone : ({} : VitestRun).totals ≠ some totals := nofun
  refine List.foldlRecOn (motive := fun run : VitestRun =>
    run.totals = some totals → totals ∈ ends events) events _ (absurd · hnone) ?_ h
  intro run ih event hevent htotals
  cases event with
  | runFinished given =>
    obtain rfl : given = totals := Option.some.inj htotals
    exact List.mem_filterMap.2 ⟨_, hevent, rfl⟩
  | consoleLog file content =>
    refine ih ?_
    unfold apply at htotals
    simp only at htotals
    split at htotals <;> exact htotals
  | testFinished outcome => exact ih htotals
  | runStarted version => exact ih htotals
  | progress => exact ih htotals

theorem countsAgree_toReport {options : Options} {events : List VitestEvent}
    (hself : SelfConsistent options events) (environment : Environment) (now : Instant)
    (hfew : (allTests (events.foldl (apply options) {}).suites).length < 2 ^ 64) :
    ((events.foldl (apply options) {}).toReport environment now).CountsAgree := by
  have hcount := statusCount_suites hself.nodup_key
  have hlength : (allTests (events.foldl (apply options) {}).suites).length =
      (outcomes events).length := by
    rw [(allTests_foldl_perm hself.nodup_key).length_eq, List.length_map]
  have hle : ∀ p, statusCount p (allTests (events.foldl (apply options) {}).suites) < 2 ^ 64 :=
    fun _ => Nat.lt_of_le_of_lt List.countP_le_length hfew
  unfold toReport summary
  cases htotals : (events.foldl (apply options) {}).totals with
  | some totals =>
    obtain ⟨htotal, hpassed, hfailed, hskipped⟩ :=
      hself.totals_eq totals (mem_ends_of_totals_foldl htotals)
    exact Report.countsAgree_of_toNat_eq (htotal.trans hlength.symm)
      (hpassed.trans (hcount _).symm) (hfailed.trans (hcount _).symm)
      (hskipped.trans (hcount _).symm)
  | none =>
    exact Report.countsAgree_of_toNat_eq (UInt64.toNat_ofNat_of_lt hfew)
      (UInt64.toNat_ofNat_of_lt (hle Status.isPassed))
      (UInt64.toNat_ofNat_of_lt (hle Status.isFailure))
      (UInt64.toNat_ofNat_of_lt (hle Status.isSkipped))

end VitestRun

/-! ## All frameworks -/

namespace WrittenReport

/-- How many entries of a report are in a class. -/
def countEntries (p : Status → Bool) : WrittenReport → Nat
  | mocha report => report.countEntries p
  | jest report _ => report.countAssertions p
  | vitest events => VitestRun.countOutcomes p events

/-- How many files of a report could not be run; only Jest says so. -/
def loadFailures : WrittenReport → Nat
  | jest report _ => report.loadFailures
  | mocha _ | vitest _ => 0

/-- The number of tests of a report. -/
def testCount (written : WrittenReport) : Nat :=
  written.countEntries (fun _ => true) + written.loadFailures

/-- A report whose counters, as far as they are given, are the numbers of its entries. -/
def SelfConsistent (options : Options) : WrittenReport → Prop
  | mocha report => report.SelfConsistent
  | jest report _ => report.SelfConsistent
  | vitest events => VitestRun.SelfConsistent options events

instance (options : Options) :
    (written : WrittenReport) → Decidable (written.SelfConsistent options)
  | mocha report => inferInstanceAs (Decidable report.SelfConsistent)
  | jest report _ => inferInstanceAs (Decidable report.SelfConsistent)
  | vitest events => inferInstanceAs (Decidable (VitestRun.SelfConsistent options events))

/-- The suites have the entries of a report, and a failure for each file that could not be run. -/
theorem statusCount_suites {written : WrittenReport} {options : Options}
    (hself : written.SelfConsistent options) (environment : Environment) (now : Instant)
    (p : Status → Bool) :
    statusCount p (allTests (written.toReport environment options now).suites) =
      written.countEntries p + if p .failed then written.loadFailures else 0 := by
  cases written with
  | mocha report =>
    rw [loadFailures, ite_self, Nat.add_zero]
    exact report.statusCount_suites options p
  | jest report coverage => exact report.statusCount_suites options p
  | vitest events =>
    rw [loadFailures, ite_self, Nat.add_zero]
    exact VitestRun.statusCount_suites hself.nodup_key p

theorem length_allTests {written : WrittenReport} {options : Options}
    (hself : written.SelfConsistent options) (environment : Environment) (now : Instant) :
    (allTests (written.toReport environment options now).suites).length = written.testCount := by
  have hall := statusCount_suites hself environment now fun _ => true
  rwa [statusCount, List.countP_true, if_pos rfl] at hall

theorem countsAgree_toReport {written : WrittenReport} {options : Options}
    (hself : written.SelfConsistent options) (hfew : written.testCount < 2 ^ 64)
    (environment : Environment) (now : Instant) :
    (written.toReport environment options now).CountsAgree := by
  rw [← length_allTests hself environment now] at hfew
  cases written with
  | mocha report => exact MochaReport.countsAgree_toReport hself environment options now hfew
  | jest report coverage =>
    exact JestReport.countsAgree_toReport hself coverage environment options now hfew
  | vitest events => exact VitestRun.countsAgree_toReport hself environment now hfew

end WrittenReport

/-- The result of a report that does not contradict itself counts the tests that it lists. Its
failures are those of the report and one for each file that could not be run, and these files are
counted once in all tests as well. -/
theorem Adapter.countsAgree_parse {a : Adapter} {output : String} {written : WrittenReport}
    (hread : a.framework.read? output.toList = .ok written) (overrides : Overrides)
    (hself : written.SelfConsistent (overrides.apply a.defaults))
    (hfew : written.testCount < 2 ^ 64) (now : Instant) :
    (∃ r, a.decode (overrides.apply a.defaults) output now = .ok r ∧
      a.parse overrides output now = r) ∧
    (a.parse overrides output now).CountsAgree ∧
    (a.parse overrides output now).summary.failedTests.toNat =
      written.countEntries Status.isFailure + written.loadFailures ∧
    (a.parse overrides output now).summary.totalTests.toNat =
      written.countEntries (fun _ => true) + written.loadFailures := by
  rw [parse_of_read?_ok hread]
  have hagree := WrittenReport.countsAgree_toReport hself hfew a.environment now
  refine ⟨?_, hagree, ?_, ?_⟩
  · refine ⟨_, ?_, rfl⟩
    rw [Adapter.decode, Framework.decode_eq_map_read?, hread]
    rfl
  · rw [hagree.failed_eq, Report.failedTests, Report.length_locatedTests,
      WrittenReport.statusCount_suites hself, if_pos (by decide)]
  · rw [hagree.total_eq, WrittenReport.length_allTests hself]
    rfl

/-- Of two files the first has one test, and the second could not be run. Jest counts that test
alone, and says nothing about how many failed. -/
theorem Adapter.countsAgree_parse_unloadedFile :
    ∃ written r, Framework.jest.read? unloadedFileOutput.toList = .ok written ∧
      written.SelfConsistent {} ∧ written.loadFailures = 1 ∧
      Adapter.parse ⟨.jest, {}, {}⟩ {} unloadedFileOutput .epoch = r ∧ r.CountsAgree ∧
      r.summary.failedTests.toNat = 1 ∧ r.summary.totalTests.toNat = 2 := by
  have hfacts : (Framework.jest.read? unloadedFileOutput.toList).toOption.any (fun written =>
      decide (written.SelfConsistent {} ∧ written.loadFailures = 1 ∧
        written.countEntries Status.isFailure = 0 ∧ written.countEntries (fun _ => true) = 1)) =
      true := by
    unfold unloadedFileOutput
    simp only [String.toList_append]
    decide +kernel
  obtain ⟨written, hread, hwritten⟩ := Framework.exists_of_any_read? hfacts
  obtain ⟨hself, hload, hfailures, hall⟩ := of_decide_eq_true hwritten
  have hfew : written.testCount < 2 ^ 64 := by
    rw [WrittenReport.testCount, hload, hall]
    omega
  obtain ⟨-, hagree, hfailed, htotal⟩ :=
    countsAgree_parse (a := ⟨.jest, {}, {}⟩) hread {} hself hfew .epoch
  rw [hfailures, hload] at hfailed
  rw [hall, hload] at htotal
  exact ⟨written, _, hread, hself, hload, rfl, hagree, hfailed, htotal⟩

end TestReport
