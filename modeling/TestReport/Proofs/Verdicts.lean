import TestReport.Proofs.Reruns
import TestReport.Query
import Mathlib.Data.List.Induction

/-!
# Success after several runs

In watch mode a stream is a row of complete runs, each with its own counts at the end, and a later
run may repeat only some of the tests. The suites collect the tests of all runs, whereas the summary
is that of the last run alone. So a result can be a success and list failed tests.

What is listed is settled by the events about single tests. A failure stays until an event about the
same test takes its place, and a skip does not take the place of a failed test, only of one that ran
out of time (`VitestOutcome.IsSuperseded`). `Adapter.failedTests_of_success_iff` puts the two halves
together: success means that nothing is listed as failed exactly when the last run has a failure of
its own, or every failure of the stream is superseded.
-/

namespace TestReport

open VitestOutcome

deriving instance DecidableEq for VitestError, VitestOutcome, VitestTotals, VitestEvent

/-! ## Complete runs -/

/-- The finished tests that events report, in order. -/
def VitestRun.outcomes (events : List VitestEvent) : List VitestOutcome :=
  events.filterMap VitestEvent.outcome?

/-- How many of the finished tests that events report are in a class. -/
def VitestRun.countOutcomes (p : Status → Bool) (events : List VitestEvent) : Nat :=
  (outcomes events).countP fun o => p o.status

/-- A run from its start to its end, in which no test is reported twice and whose counts at the end
are those of its tests. -/
structure CompleteRun where
  version : Option String
  body : List VitestEvent
  totals : VitestTotals
  nodup_body : ((VitestRun.outcomes body).map fun o => (o.file, o.name)).Nodup
  total_eq : totals.total.toNat = (VitestRun.outcomes body).length
  passed_eq :
    totals.passed.toNat = VitestRun.countOutcomes (fun s => !s.isFailure && !s.isSkipped) body
  failed_eq : totals.failed.toNat = VitestRun.countOutcomes Status.isFailure body
  skipped_eq : totals.skipped.toNat = VitestRun.countOutcomes Status.isSkipped body

namespace CompleteRun

/-- The events of a run. -/
def events (run : CompleteRun) : List VitestEvent :=
  .runStarted run.version :: run.body ++ [.runFinished run.totals]

/-- The finished tests of a run. -/
def outcomes (run : CompleteRun) : List VitestOutcome :=
  VitestRun.outcomes run.body

theorem events_ne_nil (run : CompleteRun) : run.events ≠ [] :=
  List.cons_ne_nil _ _

theorem failed_eq_zero_iff (run : CompleteRun) :
    run.totals.failed = 0 ↔ ∀ o ∈ run.outcomes, o.status.isFailure = false := by
  rw [← UInt64.toNat_inj, run.failed_eq, UInt64.toNat_zero, VitestRun.countOutcomes,
    List.countP_eq_zero]
  simp only [outcomes, Bool.not_eq_true]

theorem outcomes_flatMap (runs : List CompleteRun) :
    VitestRun.outcomes (runs.flatMap events) = runs.flatMap outcomes := by
  have hevents : ∀ run : CompleteRun, VitestRun.outcomes run.events = run.outcomes := by
    intro run
    simp [VitestRun.outcomes, events, outcomes, List.filterMap_cons, VitestEvent.outcome?]
  rw [VitestRun.outcomes, List.filterMap_flatMap]
  exact congrArg runs.flatMap (funext hevents)

/-- The counts of the last of some runs are those that stay. -/
theorem totals_foldl (options : Options) (runs : List CompleteRun) :
    ((runs.flatMap events).foldl (VitestRun.apply options) {}).totals =
      runs.getLast?.map (·.totals) := by
  induction runs using List.reverseRecOn with
  | nil => rfl
  | append_singleton runs run _ =>
    rw [List.flatMap_append, List.flatMap_singleton, List.foldl_append, events, List.foldl_append,
      List.getLast?_concat]
    rfl

end CompleteRun

/-! ## What stays of a failure -/

namespace VitestOutcome

/-- Whether one of the events after a failed test takes its place: an event about the same test
does, unless it only says skipped. A test that ran out of time gives way to a skip as well. -/
def IsSuperseded (options : Options) (o : VitestOutcome) (after : List VitestOutcome) : Prop :=
  ∃ o' ∈ after, o'.key options = o.key options ∧ (o'.status = .skipped → o.status = .timedOut)

/-- Whether every failure among some finished tests is superseded later on. -/
def AllSuperseded (options : Options) (outcomes : List VitestOutcome) : Prop :=
  ∀ before o after, outcomes = before ++ o :: after → o.status.isFailure = true →
    o.IsSuperseded options after

variable {options : Options}

/-- What is held after an event: the test of the event, or a test that passed or failed before it
and to which a skip gives way. -/
theorem hold_cases (options : Options) (held : Option Test) (o : VitestOutcome) :
    hold options held o = some (o.test options) ∨
      hold options held o = held ∧ o.status = .skipped ∧
        ∃ t, held = some t ∧ (t.status = .passed ∨ t.status = .failed) := by
  unfold hold
  split
  · next h =>
    obtain ⟨hskipped, hreal⟩ := (Bool.and_eq_true_iff ..).1 h
    obtain ⟨t, ht, hstatus⟩ := (Option.any_eq_true ..).1 hreal
    exact Or.inr ⟨rfl, beq_iff_eq.1 hskipped, t, ht, by simpa using hstatus⟩
  · exact Or.inl rfl

theorem hold_of_isFailure {o : VitestOutcome} (ho : o.status.isFailure = true)
    (held : Option Test) : hold options held o = some (o.test options) := by
  rcases hold_cases options held o with hself | ⟨-, hskipped, -⟩
  · exact hself
  · rw [hskipped] at ho
    cases ho

/-- A failed test outlasts skips. -/
theorem foldl_hold_of_skipped {t : Test} {after : List VitestOutcome}
    (h : ∀ o ∈ after, o.status = .skipped ∧ t.status = .failed) :
    after.foldl (hold options) (some t) = some t := by
  refine List.foldlRecOn (motive := fun held : Option Test => held = some t) after _ rfl ?_
  intro held hheld o ho
  obtain ⟨hskipped, hfailed⟩ := h o ho
  simp [hold, hheld, hskipped, hfailed]

/-- A failure that is held in the end comes from an event that only skips follow, and none do if it
is not a failed test. -/
theorem exists_of_foldl_hold_failure {outcomes : List VitestOutcome} {t : Test}
    (h : outcomes.foldl (hold options) none = some t) (hfailure : t.status.isFailure = true) :
    ∃ before o after, outcomes = before ++ o :: after ∧ t = o.test options ∧
      ∀ o' ∈ after, o'.status = .skipped ∧ t.status = .failed := by
  induction outcomes using List.reverseRecOn with
  | nil => cases h
  | append_singleton outcomes last ih =>
    rw [List.foldl_append, List.foldl_cons, List.foldl_nil] at h
    rcases hold_cases options (outcomes.foldl (hold options) none) last with
      hlast | ⟨hkeep, hskipped, u, hu, hreal⟩
    · exact ⟨outcomes, last, [], rfl, Option.some.inj (h.symm.trans hlast), by simp⟩
    · have ht : outcomes.foldl (hold options) none = some t := hkeep.symm.trans h
      obtain rfl : u = t := Option.some.inj (hu.symm.trans ht)
      obtain ⟨before, o, after, rfl, ho, hafter⟩ := ih ht
      have hfailed : u.status = .failed := by
        rcases hreal with hpassed | hfailed
        · rw [hpassed] at hfailure
          cases hfailure
        · exact hfailed
      refine ⟨before, o, after ++ [last], by simp, ho, ?_⟩
      intro o' ho'
      rcases List.mem_append.1 ho' with ho' | ho'
      · exact hafter o' ho'
      · exact List.mem_singleton.1 ho' ▸ ⟨hskipped, hfailed⟩

end VitestOutcome

/-! ## What is listed as failed -/

namespace VitestRun

variable {options : Options} {events : List VitestEvent}

/-- A failure that is held for a key was reported, and is not superseded. -/
theorem exists_of_heldFor_failure {file name : String} {t : Test}
    (h : heldFor options file name events = some t) (hfailure : t.status.isFailure = true) :
    ∃ before o after, outcomes events = before ++ o :: after ∧ o.status.isFailure = true ∧
      ¬ o.IsSuperseded options after := by
  obtain ⟨ownBefore, o, ownAfter, hown, rfl, hskips⟩ := exists_of_foldl_hold_failure h hfailure
  -- The events about other tests go back in between.
  obtain ⟨front, back, hsplit, -, hback⟩ := List.filter_eq_append_iff.1 hown
  obtain ⟨between, after, rfl, -, hkey, hafter⟩ := List.filter_eq_cons_iff.1 hback
  refine ⟨front ++ between, o, after, by simpa [outcomes] using hsplit, hfailure, ?_⟩
  rintro ⟨o', ho', hsame, hskip⟩
  have hmem : o' ∈ ownAfter := by
    rw [← hafter]
    exact List.mem_filter.2 ⟨ho', by rwa [hsame]⟩
  obtain ⟨hskipped, hfailed⟩ := hskips o' hmem
  cases (hskip hskipped).symm.trans hfailed

/-- A failure that is not superseded is held for its key. -/
theorem heldFor_of_not_isSuperseded {before after : List VitestOutcome} {o : VitestOutcome}
    (hsplit : outcomes events = before ++ o :: after) (ho : o.status.isFailure = true)
    (hstays : ¬ o.IsSuperseded options after) :
    heldFor options (o.path options) o.name events = some (o.test options) := by
  let own := fun o' : VitestOutcome => o'.key options == o.key options
  have hown : ownOutcomes options (o.path options) o.name events =
      before.filter own ++ o :: after.filter own := by
    have happend := List.filter_append (p := own) before (o :: after)
    rw [← hsplit, List.filter_cons_of_pos (by simp [own])] at happend
    exact happend
  have hskips : ∀ o' ∈ after.filter own, o'.status = .skipped ∧ o.status = .failed := by
    intro o' ho'
    obtain ⟨hmem, hkey⟩ := List.mem_filter.1 ho'
    obtain ⟨hskipped, htimedOut⟩ := Classical.not_imp.1 fun hskip =>
      hstays ⟨o', hmem, beq_iff_eq.1 hkey, hskip⟩
    exact ⟨hskipped, (Status.isFailure_iff.1 ho).resolve_right htimedOut⟩
  rw [heldFor, hown, List.foldl_append, List.foldl_cons, hold_of_isFailure ho]
  exact foldl_hold_of_skipped hskips

end VitestRun

theorem Report.failedTests_eq_nil_iff {r : Report} :
    r.failedTests = [] ↔ ¬ ∃ t ∈ allTests r.suites, t.status.isFailure = true := by
  rw [failedTests, locatedTests, List.flatMap_eq_nil_iff, allTests]
  simp only [List.map_eq_nil_iff, List.filter_eq_nil_iff, List.mem_flatMap]
  grind

/-- Nothing is listed as failed exactly if all failures of the stream are superseded. -/
theorem VitestRun.failedTests_eq_nil_iff {options : Options} {events : List VitestEvent}
    {environment : Environment} {now : Instant} :
    ((events.foldl (apply options) {}).toReport environment now).failedTests = [] ↔
      AllSuperseded options (outcomes events) := by
  rw [Report.failedTests_eq_nil_iff, toReport]
  constructor
  · intro h before o after hsplit ho
    by_contra hstays
    have hheld := heldFor_of_not_isSuperseded hsplit ho hstays
    exact h ⟨o.test options, mem_allTests_foldl_iff.2 ⟨_, _, hheld⟩, ho⟩
  · rintro h ⟨t, ht, hfailure⟩
    obtain ⟨file, name, hheld⟩ := mem_allTests_foldl_iff.1 ht
    obtain ⟨before, o, after, hsplit, ho, hstays⟩ := exists_of_heldFor_failure hheld hfailure
    exact hstays (h before o after hsplit ho)

/-! ## Success -/

/-- The result of a stream with events is that of the run after all of them. -/
theorem Adapter.parse_of_events_ne_nil {a : Adapter} (ha : a.framework = .vitest)
    {overrides : Overrides} {output : String} {now : Instant}
    (h : VitestRun.events output.toList ≠ []) :
    a.parse overrides output now =
      ((VitestRun.events output.toList).foldl (VitestRun.apply (overrides.apply a.defaults))
        {}).toReport a.environment now := by
  rcases a.parse_cases overrides output now with ⟨r, hdecode, hparse⟩ | ⟨e, hdecode, -⟩
  · rw [Adapter.decode, ha] at hdecode
    rw [hparse]
    exact (VitestRun.exists_of_decode hdecode).2
  · rw [Adapter.decode, ha, Framework.decode, VitestRun.decode] at hdecode
    split at hdecode
    · next hnil => exact absurd hnil h
    · cases hdecode

/-- A stream without events is no success. -/
theorem Adapter.success_of_events_eq_nil {a : Adapter} (ha : a.framework = .vitest)
    {overrides : Overrides} {output : String} {now : Instant}
    (h : VitestRun.events output.toList = []) :
    (a.parse overrides output now).summary.success = false := by
  rcases a.parse_cases overrides output now with ⟨r, hdecode, -⟩ | ⟨e, -, hparse⟩
  · rw [Adapter.decode, ha] at hdecode
    exact absurd h (VitestRun.exists_of_decode hdecode).1
  · rw [hparse]
    rfl

/-- A stream of complete runs is a success exactly if the last run has no failure. -/
theorem CompleteRun.success_iff {options : Options} {runs : List CompleteRun} {last : CompleteRun}
    (hlast : last ∈ runs.getLast?) {environment : Environment} {now : Instant} :
    (((runs.flatMap events).foldl (VitestRun.apply options) {}).toReport environment
        now).summary.success = true ↔
      ∀ o ∈ last.outcomes, o.status.isFailure = false := by
  have htotals := totals_foldl options runs
  rw [hlast, Option.map_some] at htotals
  rw [← failed_eq_zero_iff, VitestRun.toReport, VitestRun.summary, htotals]
  exact beq_iff_eq

/-- For a stream of complete runs, success means that nothing is listed as failed exactly if the
last run has a failure itself, or all failures of the stream are superseded. -/
theorem Adapter.failedTests_of_success_iff {a : Adapter} (ha : a.framework = .vitest)
    (overrides : Overrides) {output : String} {runs : List CompleteRun}
    (hruns : VitestRun.events output.toList = runs.flatMap CompleteRun.events) (now : Instant) :
    ((a.parse overrides output now).summary.success = true →
        (a.parse overrides output now).failedTests = []) ↔
      (∃ last ∈ runs.getLast?, ∃ o ∈ last.outcomes, o.status.isFailure = true) ∨
        AllSuperseded (overrides.apply a.defaults) (runs.flatMap CompleteRun.outcomes) := by
  rw [← CompleteRun.outcomes_flatMap]
  cases hlast : runs.getLast? with
  | none =>
    -- Without a run there is no event, and the result is a degraded one.
    obtain rfl : runs = [] := List.getLast?_eq_none_iff.1 hlast
    refine iff_of_true ?_ (Or.inr ?_)
    · rw [success_of_events_eq_nil ha hruns]
      intro hsuccess
      cases hsuccess
    · intro before o after hsplit
      simp [VitestRun.outcomes] at hsplit
  | some last =>
    have hne : VitestRun.events output.toList ≠ [] := by
      rw [hruns]
      intro hnil
      exact last.events_ne_nil (List.flatMap_eq_nil_iff.1 hnil last (List.mem_of_getLast? hlast))
    rw [parse_of_events_ne_nil ha hne, hruns, CompleteRun.success_iff hlast,
      VitestRun.failedTests_eq_nil_iff]
    have hfailure : (∃ last' ∈ some last, ∃ o ∈ last'.outcomes, o.status.isFailure = true) ↔
        ¬ ∀ o ∈ last.outcomes, o.status.isFailure = false := by
      simp
    rw [hfailure]
    exact imp_iff_not_or

/-! ## Two runs of a watch -/

/-- A run of two tests, of which one fails. -/
def firstRun : CompleteRun where
  version := none
  body := [
    .testFinished ⟨"s.ts", "a", "failed", none, none⟩,
    .testFinished ⟨"s.ts", "b", "passed", none, none⟩]
  totals := { total := 2, passed := 1, failed := 1, skipped := 0, duration := 3 }
  nodup_body := by decide
  total_eq := rfl
  passed_eq := rfl
  failed_eq := rfl
  skipped_eq := rfl

/-- The run after it, in which only the other test runs again. -/
def secondRun : CompleteRun where
  version := none
  body := [.testFinished ⟨"s.ts", "b", "passed", none, none⟩]
  totals := { total := 1, passed := 1, failed := 0, skipped := 0, duration := 1 }
  nodup_body := List.pairwise_singleton ..
  total_eq := rfl
  passed_eq := rfl
  failed_eq := rfl
  skipped_eq := rfl

/-- The stream of the first run. -/
def firstStream : String :=
  "\x7b\"type\":\"run-started\"\x7d\n" ++
  "\x7b\"type\":\"test-finished\",\"file\":\"s.ts\",\"name\":\"a\"," ++
  "\"state\":\"failed\"\x7d\n" ++
  "\x7b\"type\":\"test-finished\",\"file\":\"s.ts\",\"name\":\"b\"," ++
  "\"state\":\"passed\"\x7d\n" ++
  "\x7b\"type\":\"run-finished\",\"total\":2,\"passed\":1,\"failed\":1,\"skipped\":0," ++
  "\"duration\":3\x7d\n"

/-- The stream of both runs. -/
def watchStream : String :=
  firstStream ++
  "\x7b\"type\":\"run-started\"\x7d\n" ++
  "\x7b\"type\":\"test-finished\",\"file\":\"s.ts\",\"name\":\"b\"," ++
  "\"state\":\"passed\"\x7d\n" ++
  "\x7b\"type\":\"run-finished\",\"total\":1,\"passed\":1,\"failed\":0,\"skipped\":0," ++
  "\"duration\":1\x7d\n"

/-- After the first run all is well: the failed test is listed, and the result is no success. -/
theorem Adapter.failedTests_of_success_firstStream :
    VitestRun.events firstStream.toList = [firstRun].flatMap CompleteRun.events ∧
      ((({ framework := .vitest } : Adapter).parse {} firstStream .epoch).summary.success = true →
        (({ framework := .vitest } : Adapter).parse {} firstStream .epoch).failedTests = []) := by
  have hevents : VitestRun.events firstStream.toList = [firstRun].flatMap CompleteRun.events := by
    unfold firstStream
    simp only [String.toList_append]
    decide +kernel
  refine ⟨hevents, (failedTests_of_success_iff rfl {} hevents .epoch).2 (Or.inl ?_)⟩
  exact ⟨firstRun, rfl, ⟨"s.ts", "a", "failed", none, none⟩, List.mem_cons_self, by decide⟩

/-- After the second one it is still listed, and the result is a success. -/
theorem Adapter.success_with_failedTests_watchStream :
    VitestRun.events watchStream.toList = [firstRun, secondRun].flatMap CompleteRun.events ∧
      (({ framework := .vitest } : Adapter).parse {} watchStream .epoch).summary.success = true ∧
      (({ framework := .vitest } : Adapter).parse {} watchStream .epoch).failedTests ≠ [] := by
  have hevents : VitestRun.events watchStream.toList =
      [firstRun, secondRun].flatMap CompleteRun.events := by
    unfold watchStream firstStream
    simp only [String.toList_append]
    decide +kernel
  have hne : VitestRun.events watchStream.toList ≠ [] := by
    rw [hevents]
    exact List.cons_ne_nil _ _
  rw [parse_of_events_ne_nil rfl hne, hevents]
  exact ⟨rfl, by decide +kernel, by decide +kernel⟩

end TestReport
