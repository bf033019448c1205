import TestReport.Proofs.Decoded
import TestReport.Proofs.Suites

/-!
# Every result is well formed

Three frameworks build their suites in three ways, and an output that cannot be read gets a result
of its own. `Report.WellFormed` is what all of them have in common, and `Adapter.parse_wellFormed`
says that no output, host, defaults or overrides lead to a result without it.

The part about suites is an invariant of the store (`Suites.Sound`). One step keeps it whenever the
test that is put in *fits* its suite: it has an error exactly if it failed, and lies in the suite's
file. So each framework has one lemma about the single test that it builds, and its run follows by
induction.
-/

namespace TestReport

/-! ## The invariant of suites -/

/-- A test that may stand in a suite of a file. -/
structure Test.Fits (test : Test) (filePath : String) : Prop where
  error_iff : test.error.isSome = true ↔ test.status.isFailure = true
  path_eq : test.filePath.getD filePath = filePath

/-- Suites as a run leaves them after each step. -/
structure Suites.Sound (suites : List Suite) : Prop where
  settled : ∀ s ∈ suites, s.Settled
  fits : ∀ s ∈ suites, ∀ t ∈ s.tests, t.Fits s.filePath
  nodup_key : (suites.map Suite.key).Nodup

namespace Suites.Sound

variable {suites : List Suite} {test : Test} {name filePath : String}

theorem nil : Sound [] where
  settled := by simp
  fits := by simp
  nodup_key := List.Pairwise.nil

/-- Appending a test that fits keeps suites sound. -/
theorem push (h : Sound suites) (hfits : test.Fits filePath) :
    Sound (Suites.push suites name filePath test) where
  settled := settled_push h.settled name filePath test
  fits := by
    refine forall_mem_changeSuite ?_ ?_ h.fits
    · intro t ht
      obtain rfl : t = test := List.mem_singleton.1 ht
      exact hfits
    · intro s hs hkey t ht
      have hpath : s.filePath = filePath := (Prod.mk.inj hkey).2
      rcases List.mem_append.1 ht with ht | ht
      · exact hs t ht
      · obtain rfl : t = test := List.mem_singleton.1 ht
        exact hpath.symm ▸ hfits
  nodup_key := nodup_key_changeSuite (fun _ => rfl) h.nodup_key

/-- Putting a test that fits in the place of an earlier one keeps suites sound. -/
theorem upsert (h : Sound suites) (hfits : test.Fits filePath) :
    Sound (Suites.upsert suites name filePath test) where
  settled := settled_upsert h.settled name filePath test
  fits := by
    refine forall_mem_changeSuite ?_ ?_ h.fits
    · intro t ht
      obtain rfl : t = test := List.mem_singleton.1 ht
      exact hfits
    · intro s hs hkey t ht
      have hpath : s.filePath = filePath := (Prod.mk.inj hkey).2
      rcases mem_replaceTest ht with rfl | ht
      · exact hpath.symm ▸ hfits
      · exact hs t ht
  nodup_key := nodup_key_changeSuite (fun _ => rfl) h.nodup_key

end Suites.Sound

/-! ## The tests that frameworks build -/

/-- An entry never counts as timed out, so its error goes by the one failure there is. -/
theorem MochaEntry.fits_test (e : MochaEntry) {status : Status} (hstatus : status ≠ .timedOut)
    (options : Options) : (e.test status options).Fits ((e.path options).getD "") where
  error_iff := by
    cases status <;> simp_all [MochaEntry.test, Status.isFailure]
  path_eq := by
    cases hpath : e.path options <;> simp [MochaEntry.test, hpath]

theorem JestAssertion.fits_test (a : JestAssertion) (path : String) : (a.test path).Fits path where
  error_iff := by
    cases hfail : a.outcome.isFailure <;> simp [JestAssertion.test, hfail]
  path_eq := rfl

theorem JestFile.fits_runFailure (path message : String) : (runFailure path message).Fits path where
  error_iff := by simp [runFailure, Status.isFailure]
  path_eq := rfl

theorem JestFile.fits_of_mem_tests {f : JestFile} {options : Options} {t : String × Test}
    (h : t ∈ f.tests options) : t.2.Fits (f.path options) := by
  rcases List.mem_append.1 h with h | h
  · obtain ⟨a, -, rfl⟩ := List.mem_map.1 h
    exact a.fits_test (f.path options)
  · obtain ⟨message, -, rfl⟩ := Option.map_eq_some_iff.1 (Option.mem_toList.1 h)
    exact JestFile.fits_runFailure (f.path options) message

theorem VitestOutcome.fits_test (o : VitestOutcome) (options : Options) :
    (o.test options).Fits (o.path options) where
  error_iff := by
    cases hfail : o.status.isFailure <;> simp [VitestOutcome.test, hfail]
  path_eq := rfl

/-! ## Runs -/

theorem MochaReport.ne_timedOut_of_mem_entries {r : MochaReport} {e : MochaEntry × Status}
    (h : e ∈ r.entries) : e.2 ≠ .timedOut := by
  simp only [MochaReport.entries, List.mem_append, List.mem_map] at h
  rcases h with (⟨_, _, rfl⟩ | ⟨_, _, rfl⟩) | ⟨_, _, rfl⟩ <;> exact nofun

theorem MochaReport.sound_suites (r : MochaReport) (options : Options) :
    Suites.Sound (r.suites options) :=
  List.foldlRecOn r.entries _ Suites.Sound.nil fun _ h e he =>
    h.push (e.1.fits_test (ne_timedOut_of_mem_entries he) options)

theorem JestFile.sound_place (f : JestFile) (options : Options) {suites : List Suite}
    (h : Suites.Sound suites) : Suites.Sound (f.place options suites) :=
  List.foldlRecOn (f.tests options) _ h fun _ h _ ht => h.push (fits_of_mem_tests ht)

theorem JestReport.sound_suites (r : JestReport) (options : Options) :
    Suites.Sound (r.suites options) :=
  List.foldlRecOn r.files _ Suites.Sound.nil fun _ h f _ => f.sound_place options h

theorem VitestOutcome.sound_place (o : VitestOutcome) (options : Options) {suites : List Suite}
    (h : Suites.Sound suites) : Suites.Sound (o.place options suites) := by
  unfold VitestOutcome.place
  split
  · exact h
  · exact h.upsert (o.fits_test options)

/-- Of all events only a finished test changes suites. -/
theorem VitestRun.sound_apply (options : Options) {run : VitestRun} (event : VitestEvent)
    (h : Suites.Sound run.suites) : Suites.Sound (run.apply options event).suites := by
  cases event with
  | testFinished outcome => exact outcome.sound_place options h
  | consoleLog file content =>
    unfold VitestRun.apply
    simp only
    split <;> exact h
  | runStarted version => exact h
  | runFinished totals => exact h
  | progress => exact h

theorem VitestRun.sound_foldl (options : Options) (events : List VitestEvent) :
    Suites.Sound (events.foldl (VitestRun.apply options) {}).suites :=
  List.foldlRecOn (motive := fun run : VitestRun => Suites.Sound run.suites) events _
    Suites.Sound.nil fun _ h event _ => VitestRun.sound_apply options event h

theorem ExtractError.sound_degraded (e : ExtractError) (framework : Framework)
    (environment : Environment) (output : String) (now : Instant) :
    Suites.Sound (Report.degraded framework environment output e now).suites where
  settled := by
    simp only [Report.degraded, List.mem_singleton, forall_eq]
    exact
      { duration_eq := by simp [totalMillis, ExtractError.test]
        status_iff := by simp [ExtractError.test, Status.isFailure]
        nonempty := List.cons_ne_nil _ _ }
  fits := by
    simp only [Report.degraded, List.mem_singleton, forall_eq]
    exact { error_iff := by simp [ExtractError.test, Status.isFailure], path_eq := rfl }
  nodup_key := by simp [Report.degraded]

/-! ## Results -/

/-- What every result has that is read as an output of a framework on a host. -/
structure Report.WellFormed (framework : Framework) (environment : Environment) (r : Report) :
    Prop where
  success_iff : r.summary.success = true ↔ r.summary.failedTests = 0
  error_iff : ∀ t ∈ allTests r.suites,
    t.error.isSome = true ↔ t.status = .failed ∨ t.status = .timedOut
  nonempty : ∀ s ∈ r.suites, s.tests ≠ []
  nodup_key : (r.suites.map fun s => (s.name, s.filePath)).Nodup
  duration_eq : ∀ s ∈ r.suites,
    s.duration.toNat = min (s.tests.map fun t => t.duration.toNat).sum (2 ^ 64 - 1)
  status_iff : ∀ s ∈ r.suites,
    s.status = .failed ↔ ∃ t ∈ s.tests, t.status = .failed ∨ t.status = .timedOut
  path_eq : ∀ s ∈ r.suites, ∀ t ∈ s.tests, t.filePath.getD s.filePath = s.filePath
  framework_eq : r.metadata.framework = framework.name
  environment_eq : r.metadata.environment = environment
  schemaVersion_eq : r.metadata.schemaVersion = 1
  namespaces_eq :
    r.metadata.namespaces.map (·.1) = if r.metadata.parseError then [] else [framework.name]

/-- What is left to see for a result whose suites are sound: the summary and the metadata. -/
theorem Suites.Sound.wellFormed {framework : Framework} {environment : Environment} {r : Report}
    (h : Suites.Sound r.suites)
    (success_iff : r.summary.success = true ↔ r.summary.failedTests = 0)
    (framework_eq : r.metadata.framework = framework.name)
    (environment_eq : r.metadata.environment = environment)
    (schemaVersion_eq : r.metadata.schemaVersion = 1)
    (namespaces_eq :
      r.metadata.namespaces.map (·.1) = if r.metadata.parseError then [] else [framework.name]) :
    r.WellFormed framework environment where
  success_iff := success_iff
  error_iff t ht := by
    obtain ⟨s, hs, ht⟩ := List.mem_flatMap.1 ht
    exact (h.fits s hs t ht).error_iff.trans Status.isFailure_iff
  nonempty s hs := (h.settled s hs).nonempty
  nodup_key := h.nodup_key
  duration_eq s hs := (h.settled s hs).duration_eq
  status_iff s hs := by
    simpa only [Status.isFailure_iff] using (h.settled s hs).status_iff
  path_eq s hs t ht := (h.fits s hs t ht).path_eq
  framework_eq := framework_eq
  environment_eq := environment_eq
  schemaVersion_eq := schemaVersion_eq
  namespaces_eq := namespaces_eq

theorem MochaReport.wellFormed_toReport (r : MochaReport) (environment : Environment)
    (options : Options) (now : Instant) :
    (r.toReport environment options now).WellFormed .mocha environment :=
  (r.sound_suites options).wellFormed beq_iff_eq rfl rfl rfl rfl

theorem JestReport.wellFormed_toReport (r : JestReport) (coverage : Option Coverage)
    (environment : Environment) (options : Options) (now : Instant) :
    (r.toReport coverage environment options now).WellFormed .jest environment :=
  (r.sound_suites options).wellFormed beq_iff_eq rfl rfl rfl rfl

theorem VitestRun.success_summary_iff (run : VitestRun) (now : Instant) :
    (run.summary now).success = true ↔ (run.summary now).failedTests = 0 := by
  unfold VitestRun.summary
  split <;> exact beq_iff_eq

theorem VitestRun.wellFormed_toReport {run : VitestRun} (h : Suites.Sound run.suites)
    (environment : Environment) (now : Instant) :
    (run.toReport environment now).WellFormed .vitest environment :=
  h.wellFormed (run.success_summary_iff now) rfl rfl rfl rfl

theorem Report.wellFormed_degraded (framework : Framework) (environment : Environment)
    (output : String) (e : ExtractError) (now : Instant) :
    (Report.degraded framework environment output e now).WellFormed framework environment :=
  (e.sound_degraded framework environment output now).wellFormed (by simp [Report.degraded]) rfl rfl
    rfl rfl

/-- A decoded report is well formed, and does not say that it could not be read. -/
theorem Adapter.wellFormed_of_decode {a : Adapter} {options : Options} {output : String}
    {now : Instant} {r : Report} (h : a.decode options output now = .ok r) :
    r.WellFormed a.framework a.environment ∧ r.metadata.parseError = false := by
  obtain ⟨framework, environment, defaults⟩ := a
  cases framework with
  | mocha =>
    obtain ⟨_, written, -, -, rfl⟩ := MochaReport.exists_of_decode h
    exact ⟨written.wellFormed_toReport environment options now, rfl⟩
  | jest =>
    obtain ⟨_, written, -, -, rfl⟩ := JestReport.exists_of_decode h
    exact ⟨written.wellFormed_toReport _ environment options now, rfl⟩
  | vitest =>
    obtain ⟨-, rfl⟩ := VitestRun.exists_of_decode h
    exact ⟨VitestRun.wellFormed_toReport (VitestRun.sound_foldl options _) environment now, rfl⟩

theorem Adapter.wellFormed_parse (a : Adapter) (overrides : Overrides) (output : String)
    (now : Instant) : (a.parse overrides output now).WellFormed a.framework a.environment := by
  rcases a.parse_cases overrides output now with ⟨r, hdecode, hparse⟩ | ⟨e, -, hparse⟩
  · rw [hparse]
    exact (Adapter.wellFormed_of_decode hdecode).1
  · rw [hparse]
    exact Report.wellFormed_degraded a.framework a.environment output e now

/-- Whatever an adapter is given, its result is well formed, and it is marked as unreadable exactly
when there is no report in the output. -/
theorem Adapter.parse_wellFormed (a : Adapter) (overrides : Overrides) (output : String)
    (now : Instant) :
    (a.parse overrides output now).WellFormed a.framework a.environment ∧
      ((a.parse overrides output now).metadata.parseError = true ↔
        ∃ e, a.decode (overrides.apply a.defaults) output now = .error e) := by
  refine ⟨a.wellFormed_parse overrides output now, ?_⟩
  rcases a.parse_cases overrides output now with ⟨r, hdecode, hparse⟩ | ⟨e, hdecode, hparse⟩
  · rw [hparse, (Adapter.wellFormed_of_decode hdecode).2, hdecode]
    simp
  · rw [hparse, hdecode]
    simp [Report.degraded]

end TestReport
