import TestReport.Proofs.Growth
import TestReport.Proofs.Verdicts

/-!
# What a skip hides

A stream may report a test that has failed as skipped later on, because only other tests were
selected. Such an event ought to hide nothing. It looks at the test that is held for its own key and
gives way when that test passed or failed. A test that ran out of time is neither, although it is a
failure like the other one, and so the skip takes its place.

The tests that a stream lists as failed are the failures that it holds, each for the key that it is
known by (`VitestRun.mem_failedTests_iff`). One more event changes what is held for its own key only
(`VitestRun.heldFor_concat`). So of all listed tests a skip hides the one that has its key, and that
one only if it ran out of time (`Adapter.mem_failedTests_skip_iff`).
-/

namespace TestReport

open Text (Spells)
open VitestOutcome

/-! ## What is held and listed -/

/-- No test is known by two keys. -/
theorem Test.isKnownBy_iff {t : Test} {file name : String} :
    t.isKnownBy file name = true ↔ t.filePath = some file ∧ t.fullName = name := by
  simp [isKnownBy]

namespace VitestRun

variable {options : Options} {events : List VitestEvent} {file name : String}

/-- What is held for a key is the stored test that is known by it. -/
theorem heldFor_eq_some_iff {u : Test} :
    heldFor options file name events = some u ↔
      u ∈ allTests (events.foldl (apply options) {}).suites ∧ u.isKnownBy file name = true := by
  calc
    heldFor options file name events = some u ↔ u ∈ (heldFor options file name events).toList :=
      Option.mem_toList.symm
    _ ↔ _ := by rw [← filter_isKnownBy_eq_heldFor, List.mem_filter]

/-- A stream lists as failed what it holds as a failure, with the suite and the file of the key. -/
theorem mem_failedTests_iff {environment : Environment} {now : Instant} {t : LocatedTest} :
    t ∈ ((events.foldl (apply options) {}).toReport environment now).failedTests ↔
      ∃ file name u, heldFor options file name events = some u ∧ u.status.isFailure = true ∧
        t = ⟨u.withoutPath, suiteNameOf file name, file⟩ := by
  have hplaced := placed_foldl options events
  have hplace : ∀ s ∈ (events.foldl (apply options) {}).suites, ∀ u ∈ s.tests, ∀ file name,
      u.isKnownBy file name = true →
        LocatedTest.of s u = ⟨u.withoutPath, suiteNameOf file name, file⟩ := by
    intro s hs u hu file name hknown
    obtain ⟨o, rfl, hkey⟩ := hplaced.exists_outcome s hs u hu
    obtain ⟨hfile, rfl⟩ := Test.isKnownBy_iff.1 hknown
    obtain rfl : o.path options = file := Option.some.inj hfile
    rw [LocatedTest.of, (Prod.mk.inj hkey).1]
    rfl
  simp only [Report.failedTests, Report.locatedTests, List.mem_flatMap, List.mem_map,
    List.mem_filter, toReport]
  constructor
  · rintro ⟨s, hs, u, ⟨hu, hfailure⟩, rfl⟩
    have hmem : u ∈ allTests (events.foldl (apply options) {}).suites :=
      List.mem_flatMap.2 ⟨s, hs, hu⟩
    obtain ⟨file, name, hheld⟩ := mem_allTests_foldl_iff.1 hmem
    exact ⟨file, name, u, hheld, hfailure,
      hplace s hs u hu file name (heldFor_eq_some_iff.1 hheld).2⟩
  · rintro ⟨file, name, u, hheld, hfailure, rfl⟩
    obtain ⟨hmem, hknown⟩ := heldFor_eq_some_iff.1 hheld
    obtain ⟨s, hs, hu⟩ := List.mem_flatMap.1 hmem
    exact ⟨s, hs, u, ⟨hu, hfailure⟩, hplace s hs u hu file name hknown⟩

/-! ## One more event -/

theorem heldFor_concat (options : Options) (events : List VitestEvent) (o : VitestOutcome)
    (file name : String) :
    heldFor options file name (events ++ [.testFinished o]) =
      if o.key options = (file, name) then hold options (heldFor options file name events) o
      else heldFor options file name events := by
  have hown : ownOutcomes options file name (events ++ [VitestEvent.testFinished o]) =
      ownOutcomes options file name events ++ if o.key options = (file, name) then [o] else [] := by
    unfold ownOutcomes
    rw [List.filterMap_append, List.filter_append]
    simp [VitestEvent.outcome?, List.filter_cons]
  rw [heldFor, hown, List.foldl_append]
  split <;> rfl

/-- After a skip the failures are listed that were listed before, but for a test that ran out of
time and is known by the key of the skip. -/
theorem mem_failedTests_concat_skip_iff {o : VitestOutcome} (hskipped : o.status = .skipped)
    (environment : Environment) (now now' : Instant) {t : LocatedTest}
    (ht : t ∈ ((events.foldl (apply options) {}).toReport environment now).failedTests) :
    t ∈ (((events ++ [VitestEvent.testFinished o]).foldl (apply options) {}).toReport environment
        now').failedTests ↔
      ¬ (t.test.status = .timedOut ∧ t.filePath = o.path options ∧ t.test.fullName = o.name) := by
  obtain ⟨file, name, u, hheld, hfailure, rfl⟩ := mem_failedTests_iff.1 ht
  obtain ⟨-, hname⟩ := Test.isKnownBy_iff.1 (heldFor_eq_some_iff.1 hheld).2
  rw [mem_failedTests_iff, Test.status_withoutPath, Test.fullName_withoutPath, hname]
  have hafter := heldFor_concat options events o file name
  by_cases hkey : o.key options = (file, name)
  · obtain ⟨rfl, rfl⟩ := Prod.mk.inj hkey
    rw [if_pos hkey, hheld] at hafter
    rcases Status.isFailure_iff.1 hfailure with hfailed | htimedOut
    · -- The skip gives way to a test that failed.
      have hkept : hold options (some u) o = some u := by
        simp [hold, hskipped, hfailed]
      refine iff_of_true ⟨_, _, u, hafter.trans hkept, hfailure, rfl⟩ ?_
      rintro ⟨htimedOut, -, -⟩
      cases hfailed.symm.trans htimedOut
    · -- It takes the place of one that ran out of time, which is then held nowhere.
      have htaken : hold options (some u) o = some (o.test options) := by
        simp [hold, hskipped, htimedOut]
      refine iff_of_false ?_ (not_not.2 ⟨htimedOut, rfl, rfl⟩)
      rintro ⟨file', name', u', hheld', hfailure', heq⟩
      obtain ⟨htest, -, rfl⟩ := LocatedTest.mk.inj heq
      obtain ⟨-, hname'⟩ := Test.isKnownBy_iff.1 (heldFor_eq_some_iff.1 hheld').2
      have hfullName := congrArg Test.fullName htest
      rw [Test.fullName_withoutPath, Test.fullName_withoutPath, hname, hname'] at hfullName
      subst hfullName
      rw [hafter, htaken] at hheld'
      have hstatus : o.status = u'.status := congrArg Test.status (Option.some.inj hheld')
      rw [← hstatus, hskipped] at hfailure'
      cases hfailure'
  · rw [if_neg hkey, hheld] at hafter
    refine iff_of_true ⟨file, name, u, hafter, hfailure, rfl⟩ ?_
    rintro ⟨-, hfile, hname⟩
    exact hkey (Prod.ext hfile.symm hname.symm)

end VitestRun

/-! ## Two streams -/

/-- When a stream that holds an event is followed by the event of a skipped test, both decode, and a
test that was listed as failed is still listed unless it ran out of time and the event is about that
very test: same file, same whole name. -/
theorem Adapter.mem_failedTests_skip_iff {a : Adapter} (ha : a.framework = .vitest)
    (overrides : Overrides) {output output' : String} {lines : List (List Char)} {line : List Char}
    (h : Spells lines output.toList) (h' : Spells (lines ++ [line]) output'.toList)
    (hevent : ∃ line ∈ lines, ¬ IsNoise line) {o : VitestOutcome}
    (hline : lineEvent? line = some (.testFinished o)) (hskipped : o.status = .skipped)
    (now now' : Instant) :
    (a.parse overrides output now).metadata.parseError = false ∧
      (a.parse overrides output' now').metadata.parseError = false ∧
      ∀ t ∈ (a.parse overrides output now).failedTests,
        (t ∈ (a.parse overrides output' now').failedTests ↔
          ¬ (t.test.status = .timedOut ∧ t.filePath = o.path (overrides.apply a.defaults) ∧
            t.test.fullName = o.name)) := by
  have hevents := VitestRun.events_eq h
  have hevents' : VitestRun.events output'.toList =
      VitestRun.events output.toList ++ [.testFinished o] := by
    rw [VitestRun.events_eq h', hevents, List.filterMap_append]
    simp [hline]
  have hne : VitestRun.events output.toList ≠ [] := by
    rw [hevents]
    exact filterMap_lineEvent?_ne_nil_iff.2 hevent
  have hne' : VitestRun.events output'.toList ≠ [] := by
    rw [hevents']
    exact List.append_ne_nil_of_left_ne_nil hne _
  rw [parse_of_events_ne_nil ha hne, parse_of_events_ne_nil ha hne', hevents']
  exact ⟨(WrittenReport.vitest _).parseError_toReport a.environment _ now,
    (WrittenReport.vitest _).parseError_toReport a.environment _ now', fun t ht =>
      VitestRun.mem_failedTests_concat_skip_iff hskipped a.environment now now' ht⟩

/-- The lines of a stream, each with a line feed. -/
def streamOf (lines : List (List Char)) : String :=
  String.ofList (lines.flatMap (· ++ ['\n']))

theorem spells_streamOf {lines : List (List Char)} (h : ∀ line ∈ lines, '\n' ∉ line) :
    Spells lines (streamOf lines).toList := by
  rw [streamOf, String.toList_ofList]
  induction lines with
  | nil => exact .nil
  | cons line lines ih =>
    obtain ⟨hline, hlines⟩ := List.forall_mem_cons.1 h
    rw [List.flatMap_cons, List.append_assoc]
    exact .feed hline (ih hlines)

/-- A test in a file as an event reports it that gives nothing but its state. -/
def plainOutcome (state : String) : VitestOutcome :=
  ⟨"a.ts", "t", state, none, none⟩

/-- The event of a test that ran out of time. -/
def timedOutLine : List Char :=
  "\x7b\"type\":\"test-finished\",\"file\":\"a.ts\",\"name\":\"t\",\"state\":\"timeout\"\x7d".toList

/-- The event of the same test when it was not selected. -/
def skippedLine : List Char :=
  "\x7b\"type\":\"test-finished\",\"file\":\"a.ts\",\"name\":\"t\",\"state\":\"skipped\"\x7d".toList

theorem lineEvent?_timedOutLine :
    lineEvent? timedOutLine = some (.testFinished (plainOutcome "timeout")) := by
  decide +kernel

theorem lineEvent?_skippedLine :
    lineEvent? skippedLine = some (.testFinished (plainOutcome "skipped")) := by
  decide +kernel

theorem lineEvent?_failedLine :
    lineEvent? VitestRun.failedLine = some (.testFinished (plainOutcome "failed")) := by
  decide +kernel

theorem not_isNoise_of_lineEvent? {line : List Char} {event : VitestEvent}
    (h : lineEvent? line = some event) : ¬ IsNoise line := by
  rw [← lineEvent?_eq_none_iff, h]
  exact Option.some_ne_none event

/-- What is listed as failed for a stream of lines that hold some events. -/
theorem Adapter.failedTests_streamOf {a : Adapter} (ha : a.framework = .vitest)
    {lines : List (List Char)} (h : ∀ line ∈ lines, '\n' ∉ line) (events : List VitestEvent)
    (hevents : lines.filterMap lineEvent? = events) (hne : events ≠ []) (now : Instant) :
    (a.parse {} (streamOf lines) now).failedTests =
      ((events.foldl (VitestRun.apply a.defaults) {}).toReport a.environment now).failedTests := by
  have hread : VitestRun.events (streamOf lines).toList = events :=
    (VitestRun.events_eq (spells_streamOf h)).trans hevents
  rw [parse_of_events_ne_nil ha (hread ▸ hne), hread]
  rfl

/-- A test that failed is still listed after the skip. -/
theorem Adapter.mem_failedTests_skip_iff_failedLine :
    ∃ t ∈ (({ framework := .vitest } : Adapter).parse {} (streamOf [VitestRun.failedLine])
        .epoch).failedTests,
      t ∈ (({ framework := .vitest } : Adapter).parse {}
        (streamOf ([VitestRun.failedLine] ++ [skippedLine])) .epoch).failedTests := by
  have hone : ∀ line ∈ [VitestRun.failedLine], '\n' ∉ line := by decide +kernel
  have hboth : ∀ line ∈ [VitestRun.failedLine] ++ [skippedLine], '\n' ∉ line := by decide +kernel
  obtain ⟨-, -, hstays⟩ := mem_failedTests_skip_iff (a := { framework := .vitest }) rfl {}
    (spells_streamOf hone) (spells_streamOf hboth)
    ⟨_, List.mem_singleton_self _, not_isNoise_of_lineEvent? lineEvent?_failedLine⟩
    lineEvent?_skippedLine (by decide) .epoch .epoch
  have hlisted := failedTests_streamOf (a := { framework := .vitest }) rfl hone
    [.testFinished (plainOutcome "failed")] (by simp [lineEvent?_failedLine])
    (List.cons_ne_nil _ _) .epoch
  obtain ⟨t, ht, hfailed⟩ : ∃ t ∈ (({ framework := .vitest } : Adapter).parse {}
      (streamOf [VitestRun.failedLine]) .epoch).failedTests, t.test.status = .failed := by
    rw [hlisted]
    decide +kernel
  refine ⟨t, ht, (hstays t ht).2 fun hhidden => ?_⟩
  cases hfailed.symm.trans hhidden.1

/-- A test that ran out of time is not. -/
theorem Adapter.skip_hides_timedOutLine :
    (∃ line ∈ [timedOutLine], ¬ IsNoise line) ∧
      lineEvent? skippedLine = some (.testFinished (plainOutcome "skipped")) ∧
      (plainOutcome "skipped").status = .skipped ∧
      ∃ t ∈ (({ framework := .vitest } : Adapter).parse {} (streamOf [timedOutLine])
          .epoch).failedTests,
        t ∉ (({ framework := .vitest } : Adapter).parse {}
          (streamOf ([timedOutLine] ++ [skippedLine])) .epoch).failedTests := by
  have hone : ∀ line ∈ [timedOutLine], '\n' ∉ line := by decide +kernel
  have hboth : ∀ line ∈ [timedOutLine] ++ [skippedLine], '\n' ∉ line := by decide +kernel
  have hbefore := failedTests_streamOf (a := { framework := .vitest }) rfl hone
    [.testFinished (plainOutcome "timeout")] (by simp [lineEvent?_timedOutLine])
    (List.cons_ne_nil _ _) .epoch
  have hafter := failedTests_streamOf (a := { framework := .vitest }) rfl hboth
    [.testFinished (plainOutcome "timeout"), .testFinished (plainOutcome "skipped")]
    (by simp [lineEvent?_timedOutLine, lineEvent?_skippedLine]) (List.cons_ne_nil _ _) .epoch
  have hevent := not_isNoise_of_lineEvent? lineEvent?_timedOutLine
  refine ⟨⟨_, List.mem_singleton_self _, hevent⟩, lineEvent?_skippedLine, by decide, ?_⟩
  rw [hbefore, hafter]
  decide +kernel

end TestReport
