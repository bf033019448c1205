import TestReport.Proofs.Decoded
import TestReport.Proofs.Suites

/-!
# Reruns in an event stream

A stream may report a test many times, mixed with the events of all other tests. What is stored in
the end is a fold over the events of each test alone: `VitestRun.tests_eq_fold`.

A test is known by its file and its whole name, the *key*. The suites know nothing of keys. They
look a test up in two levels, by the name and the file of its suite and then by an id, and all three
texts are glued from the two of the key. `storedAt` is this look-up, and the proof has three parts.

* One event replaces what is stored for its own key as `VitestOutcome.hold` says
  (`storedAt_place_self`), and leaves what is stored for every other key alone
  (`storedAt_place_of_ne`). Two keys with one suite have one file, so their ids differ in the name.
* Over a whole stream the two facts give the fold (`VitestRun.storedAt_foldl`).
* Every test of the suites stands where the look-up for its own key goes (`Suites.Placed`), so that
  nothing with a key is stored anywhere else (`filter_isKnownBy_eq_storedAt`).
-/

namespace TestReport

open VitestOutcome

/-! ## Keys -/

/-- The name of the suite of a test with a file and a whole name. -/
def suiteNameOf (file name : String) : String :=
  match Text.splitLast? nameSeparator.toList name.toList with
  | some (suite, _) => String.ofList suite
  | none => file

/-- The id of a test with a file and a whole name. -/
def testIdOf (file name : String) : String :=
  file ++ " " ++ name

theorem testIdOf_inj {file name name' : String} :
    testIdOf file name = testIdOf file name' ↔ name = name' := by
  constructor
  · intro h
    have hlist := congrArg String.toList h
    simp only [testIdOf, String.toList_append] at hlist
    exact String.toList_inj.1 (List.append_cancel_left hlist)
  · exact fun h => congrArg _ h

namespace VitestOutcome

variable (o : VitestOutcome) (options : Options)

/-- What a finished test is known by: its file and its whole name. -/
def key : String × String :=
  (o.path options, o.name)

theorem names_fst : (o.names options).1 = suiteNameOf (o.path options) o.name := by
  unfold names suiteNameOf
  cases Text.splitLast? nameSeparator.toList o.name.toList with
  | none => rfl
  | some parts => rfl

theorem id_test : (o.test options).id = testIdOf (o.path options) o.name :=
  rfl

/-- The test that is held after one more event about it: a skip gives way to a test that has passed
or failed, and everything else replaces what was held. -/
def hold (held : Option Test) (o : VitestOutcome) : Option Test :=
  if o.status == .skipped && held.any fun t => t.status == .passed || t.status == .failed then held
  else some (o.test options)

/-- The test as which an event about it is held: its fields are those that the event tells. -/
structure IsHeldAs (t : Test) : Prop where
  fullName_eq : t.fullName = o.name
  filePath_eq : t.filePath = some (Text.normalizePath options.normalizeFilePaths o.file)
  id_eq : t.id = Text.normalizePath options.normalizeFilePaths o.file ++ " " ++ o.name
  /-- What follows the last separator of the name, or else the whole name. -/
  name_eq : t.name =
    match Text.splitLast? " > ".toList o.name.toList with
    | some (_, short) => String.ofList short
    | none => o.name
  status_eq : t.status = Status.ofNative o.state
  duration_eq : t.duration = wholeMillis o.duration
  /-- A failure has the error of the event without escape sequences, and no other test has one. -/
  error_eq :
    let plain := fun s : String => String.ofList (Text.stripEscapes s.toList)
    let error := o.error.getD {}
    t.error =
      if t.status = .failed ∨ t.status = .timedOut then some
        { message := plain (error.message.getD "")
          stack := plain (error.stack.getD "")
          kind := error.name.getD "Error"
          diff := error.diff.map plain
          actual := error.actual.map fun s => .str (plain s)
          expected := error.expected.map fun s => .str (plain s) }
      else none

theorem isHeldAs_test : o.IsHeldAs options (o.test options) where
  fullName_eq := rfl
  filePath_eq := rfl
  id_eq := rfl
  name_eq := by
    show (o.names options).2 = _
    unfold names nameSeparator
    cases Text.splitLast? " > ".toList o.name.toList <;> rfl
  status_eq := rfl
  duration_eq := rfl
  error_eq := by
    simp only [test, ← Status.isFailure_iff]
    rfl

end VitestOutcome

/-- Whether a test is the one with a file and a whole name. -/
def Test.isKnownBy (t : Test) (file name : String) : Bool :=
  t.filePath == some file && t.fullName == name

/-- The finished test that an event reports. -/
def VitestEvent.outcome? : VitestEvent → Option VitestOutcome
  | testFinished outcome => some outcome
  | _ => none

/-- The events about one test, in order. -/
def VitestRun.ownOutcomes (options : Options) (file name : String) (events : List VitestEvent) :
    List VitestOutcome :=
  (events.filterMap VitestEvent.outcome?).filter fun o => o.key options == (file, name)

/-! ## What one event changes -/

/-- The test that a stream holds for a file and a whole name. -/
def VitestRun.heldFor (options : Options) (file name : String) (events : List VitestEvent) :
    Option Test :=
  (ownOutcomes options file name events).foldl (hold options) none

/-- What is found for a test in the suite that it belongs to. -/
def storedAt (suites : List Suite) (file name : String) : List Test :=
  (Suites.testsAt suites (suiteNameOf file name) file).filter (·.id = testIdOf file name)

section Step

variable {o : VitestOutcome} {options : Options} {suites : List Suite}

/-- A skip looks at the very test that is stored for its key. -/
theorem isDominated_eq {held : Option Test}
    (h : storedAt suites (o.path options) o.name = held.toList) :
    o.isDominated options suites =
      (o.status == .skipped &&
        held.any fun t => t.status == .passed || t.status == .failed) := by
  have hfind : Suites.find? suites (o.names options).1 (o.path options) (o.test options).id =
      held := by
    rw [Suites.find?_eq_find?_testsAt, names_fst, id_test, ← List.head?_filter]
    exact (congrArg List.head? h).trans (by cases held <;> rfl)
  rw [isDominated, hfind]

theorem storedAt_place_self {held : Option Test}
    (h : storedAt suites (o.path options) o.name = held.toList) :
    storedAt (o.place options suites) (o.path options) o.name = (hold options held o).toList := by
  unfold place hold
  rw [isDominated_eq h]
  split
  · exact h
  · have hreplaced := filter_replaceTest_self (o.test options)
      (Suites.testsAt suites (suiteNameOf (o.path options) o.name) (o.path options))
    have htail : (storedAt suites (o.path options) o.name).tail = [] := by
      rw [h]
      cases held <;> rfl
    rw [storedAt, names_fst, Suites.testsAt_upsert_self]
    exact hreplaced.trans (congrArg _ htail)

theorem storedAt_place_of_ne {file name : String} (hne : (file, name) ≠ o.key options) :
    storedAt (o.place options suites) file name = storedAt suites file name := by
  unfold place
  split
  · rfl
  · unfold storedAt
    by_cases hsuite : (suiteNameOf file name, file) = ((o.names options).1, o.path options)
    · -- Both tests are in one suite, hence in one file, and differ in their names.
      obtain ⟨hname, hfile⟩ := Prod.mk.inj hsuite
      have hid : testIdOf file name ≠ (o.test options).id := by
        rw [id_test, hfile]
        exact fun h => hne (Prod.ext hfile (testIdOf_inj.1 h))
      rw [hname, hfile, Suites.testsAt_upsert_self, ← hfile, filter_replaceTest_of_ne hid]
    · rw [Suites.testsAt_upsert_of_ne suites _ hsuite]

end Step

/-! ## A whole stream -/

theorem VitestRun.suites_apply (options : Options) (run : VitestRun) (event : VitestEvent) :
    (run.apply options event).suites =
      match event.outcome? with
      | some o => o.place options run.suites
      | none => run.suites := by
  cases event with
  | consoleLog file content =>
    unfold VitestRun.apply VitestEvent.outcome?
    simp only
    split <;> rfl
  | testFinished outcome => rfl
  | runStarted version => rfl
  | runFinished totals => rfl
  | progress => rfl

/-- What holds of all tests that events report holds of all tests of a run. -/
theorem VitestRun.forall_mem_foldl {P : Test → Prop} {options : Options}
    (h : ∀ o : VitestOutcome, P (o.test options)) (events : List VitestEvent) :
    ∀ t ∈ allTests (events.foldl (VitestRun.apply options) {}).suites, P t := by
  have hnone : ∀ t ∈ allTests [], P t := by simp [allTests]
  refine List.foldlRecOn (motive := fun run : VitestRun => ∀ t ∈ allTests run.suites, P t)
    events _ hnone fun run hrun event _ => ?_
  rw [suites_apply]
  split
  · next o _ =>
    unfold VitestOutcome.place
    split
    · exact hrun
    · exact Suites.forall_mem_upsert hrun (h o) _ _
  · exact hrun

/-- Whatever the order of events, what is stored for a key is the fold over its own events. -/
theorem VitestRun.storedAt_foldl {options : Options} {file name : String}
    (events : List VitestEvent) {run : VitestRun} {held : Option Test}
    (h : storedAt run.suites file name = held.toList) :
    storedAt (events.foldl (VitestRun.apply options) run).suites file name =
      ((ownOutcomes options file name events).foldl (hold options) held).toList := by
  induction events generalizing run held with
  | nil => exact h
  | cons event rest ih =>
    have hsuites := suites_apply options run event
    rw [List.foldl_cons]
    cases ho : event.outcome? with
    | none =>
      rw [ho] at hsuites
      have hown : ownOutcomes options file name (event :: rest) =
          ownOutcomes options file name rest := by
        simp [ownOutcomes, ho]
      rw [hown]
      exact ih (hsuites ▸ h)
    | some o =>
      rw [ho] at hsuites
      by_cases hkey : o.key options = (file, name)
      · obtain ⟨rfl, rfl⟩ := Prod.mk.inj hkey
        have hown : ownOutcomes options (o.path options) o.name (event :: rest) =
            o :: ownOutcomes options (o.path options) o.name rest := by
          simp [ownOutcomes, ho, VitestOutcome.key]
        rw [hown, List.foldl_cons]
        exact ih (hsuites ▸ storedAt_place_self h)
      · have hown : ownOutcomes options file name (event :: rest) =
            ownOutcomes options file name rest := by
          simp [ownOutcomes, ho, hkey]
        rw [hown]
        exact ih (hsuites ▸ (storedAt_place_of_ne (Ne.symm hkey)).trans h)

/-! ## Nothing is stored elsewhere -/

/-- Every test is that of some event, and stands in the suite of its key. -/
structure Suites.Placed (options : Options) (suites : List Suite) : Prop where
  nodup_key : (suites.map Suite.key).Nodup
  exists_outcome : ∀ s ∈ suites, ∀ t ∈ s.tests, ∃ o : VitestOutcome,
    t = o.test options ∧ s.key = (suiteNameOf (o.path options) o.name, o.path options)

theorem Suites.Placed.place {options : Options} {suites : List Suite}
    (h : Suites.Placed options suites) (o : VitestOutcome) :
    Suites.Placed options (o.place options suites) := by
  unfold VitestOutcome.place
  split
  · exact h
  · refine ⟨nodup_key_changeSuite (fun _ => rfl) h.nodup_key, ?_⟩
    refine forall_mem_changeSuite ?_ ?_ h.exists_outcome
    · intro t ht
      obtain rfl : t = o.test options := List.mem_singleton.1 ht
      exact ⟨o, rfl, Prod.ext (o.names_fst options) rfl⟩
    · intro s hs hkey t ht
      rcases mem_replaceTest ht with rfl | ht
      · exact ⟨o, rfl, hkey.trans (Prod.ext (o.names_fst options) rfl)⟩
      · exact hs t ht

theorem VitestRun.placed_foldl (options : Options) (events : List VitestEvent) :
    Suites.Placed options (events.foldl (VitestRun.apply options) {}).suites := by
  refine List.foldlRecOn (motive := fun run : VitestRun => Suites.Placed options run.suites) events
    _ ⟨List.Pairwise.nil, by simp⟩ ?_
  intro run h event _
  rw [suites_apply]
  split
  · exact h.place _
  · exact h

/-- In suites that a stream has filled, the tests with a key are those that are found for it. -/
theorem filter_isKnownBy_eq_storedAt {options : Options} {suites : List Suite}
    (h : Suites.Placed options suites) (file name : String) :
    (allTests suites).filter (·.isKnownBy file name) = storedAt suites file name := by
  rw [Suites.filter_allTests_eq (suiteNameOf file name) file h.nodup_key, storedAt]
  · refine List.filter_congr fun t ht => ?_
    obtain ⟨s, hs, ht'⟩ : ∃ s, suites.find? (·.isAt (suiteNameOf file name) file) = some s ∧
        t ∈ s.tests := by
      unfold Suites.testsAt at ht
      cases hs : suites.find? (·.isAt (suiteNameOf file name) file) with
      | none => simp [hs] at ht
      | some s => exact ⟨s, rfl, by simpa [hs] using ht⟩
    obtain ⟨o, rfl, hkey⟩ := h.exists_outcome s (List.mem_of_find?_eq_some hs) t ht'
    have hat : s.key = (suiteNameOf file name, file) :=
      Suite.isAt_iff.1 (List.find?_some (p := fun s : Suite => s.isAt _ file) hs)
    obtain rfl : o.path options = file := (Prod.mk.inj (hkey.symm.trans hat)).2
    rw [id_test, Bool.eq_iff_iff]
    simp [Test.isKnownBy, VitestOutcome.test, testIdOf_inj]
  · intro s hs hkey t ht
    obtain ⟨o, rfl, hplace⟩ := h.exists_outcome s hs t ht
    refine Bool.eq_false_iff.2 fun hknown => hkey ?_
    obtain ⟨rfl, rfl⟩ : o.path options = file ∧ o.name = name := by
      simpa [Test.isKnownBy, VitestOutcome.test] using hknown
    exact hplace

/-! ## The stored tests of a stream -/

/-- After a stream the stored tests with a key are what the stream holds for it. -/
theorem VitestRun.filter_isKnownBy_eq_heldFor (options : Options) (events : List VitestEvent)
    (file name : String) :
    (allTests (events.foldl (apply options) {}).suites).filter (·.isKnownBy file name) =
      (heldFor options file name events).toList := by
  rw [filter_isKnownBy_eq_storedAt (placed_foldl options events)]
  exact storedAt_foldl events rfl

/-- The stored tests of a stream are those that it holds for some key. -/
theorem VitestRun.mem_allTests_foldl_iff {options : Options} {events : List VitestEvent}
    {t : Test} :
    t ∈ allTests (events.foldl (apply options) {}).suites ↔
      ∃ file name, heldFor options file name events = some t := by
  constructor
  · intro ht
    obtain ⟨s, hs, hts⟩ := List.mem_flatMap.1 ht
    obtain ⟨o, rfl, -⟩ := (placed_foldl options events).exists_outcome s hs t hts
    refine ⟨o.path options, o.name, Option.mem_toList.1 ?_⟩
    rw [← filter_isKnownBy_eq_heldFor]
    exact List.mem_filter.2 ⟨ht, by simp [Test.isKnownBy, VitestOutcome.test]⟩
  · rintro ⟨file, name, ht⟩
    have hmem := Option.mem_toList.2 ht
    rw [← filter_isKnownBy_eq_heldFor] at hmem
    exact (List.mem_filter.1 hmem).1

/-- What a fold over events holds is the test of one of them. -/
theorem VitestOutcome.exists_of_foldl_hold {options : Options} {outcomes : List VitestOutcome}
    {t : Test} (h : outcomes.foldl (hold options) none = some t) :
    ∃ o ∈ outcomes, t = o.test options := by
  have hmotive : ∀ u, outcomes.foldl (hold options) none = some u →
      ∃ o ∈ outcomes, u = o.test options := by
    refine List.foldlRecOn
      (motive := fun held : Option Test => ∀ u, held = some u → ∃ o ∈ outcomes, u = o.test options)
      outcomes _ (by simp) ?_
    intro held hheld o ho u hu
    unfold hold at hu
    split at hu
    · exact hheld u hu
    · exact ⟨o, ho, (Option.some.inj hu).symm⟩
  exact hmotive t h

/-- Once a test is held there is always one. -/
theorem VitestOutcome.isSome_foldl_hold {options : Options} {held : Option Test}
    (h : held.isSome = true) (outcomes : List VitestOutcome) :
    (outcomes.foldl (hold options) held).isSome = true := by
  refine List.foldlRecOn (motive := fun held : Option Test => held.isSome = true) outcomes _ h ?_
  intro held hheld o _
  unfold hold
  split
  · exact hheld
  · rfl

theorem VitestRun.isSome_heldFor_iff {options : Options} {file name : String}
    {events : List VitestEvent} :
    (heldFor options file name events).isSome = true ↔
      ownOutcomes options file name events ≠ [] := by
  unfold heldFor
  cases ownOutcomes options file name events with
  | nil => simp
  | cons o rest =>
    have hfirst : (hold options none o).isSome = true := by simp [hold]
    simpa using isSome_foldl_hold hfirst rest

theorem VitestRun.mem_of_mem_ownOutcomes {options : Options} {file name : String}
    {events : List VitestEvent} {o : VitestOutcome}
    (h : o ∈ ownOutcomes options file name events) : .testFinished o ∈ events := by
  obtain ⟨event, hevent, ho⟩ := List.mem_filterMap.1 (List.mem_filter.1 h).1
  cases event with
  | testFinished outcome => exact Option.some.inj ho ▸ hevent
  | consoleLog file content => cases ho
  | runStarted version => cases ho
  | runFinished totals => cases ho
  | progress => cases ho

/-- In a stream that decodes, a test is stored exactly once if any event reports it, and every
stored test is one that was reported. What is stored is what the test's own events leave in order,
whatever comes between them, and one of them gives all of its fields: id, names, outcome, duration,
file and error. -/
theorem VitestRun.tests_eq_fold {environment : Environment} {options : Options} {output : String}
    {now : Instant} {r : Report}
    (h : VitestRun.decode environment options output now = .ok r) :
    (∀ t ∈ allTests r.suites, ∃ o, .testFinished o ∈ events output.toList ∧ t = o.test options ∧
      o.IsHeldAs options t) ∧
    ∀ file name,
      (allTests r.suites).filter (·.isKnownBy file name) =
          (heldFor options file name (events output.toList)).toList ∧
        ((heldFor options file name (events output.toList)).isSome = true ↔
          ownOutcomes options file name (events output.toList) ≠ []) ∧
        ∀ t, heldFor options file name (events output.toList) = some t →
          ∃ o ∈ ownOutcomes options file name (events output.toList), t = o.test options ∧
            o.IsHeldAs options t := by
  obtain ⟨-, rfl⟩ := exists_of_decode h
  refine ⟨fun t ht => ?_, fun file name =>
    ⟨filter_isKnownBy_eq_heldFor options _ file name, isSome_heldFor_iff, fun t ht => ?_⟩⟩
  · obtain ⟨file, name, hheld⟩ := mem_allTests_foldl_iff.1 ht
    obtain ⟨o, ho, rfl⟩ := exists_of_foldl_hold hheld
    exact ⟨o, mem_of_mem_ownOutcomes ho, rfl, o.isHeldAs_test options⟩
  · obtain ⟨o, ho, rfl⟩ := exists_of_foldl_hold ht
    exact ⟨o, ho, rfl, o.isHeldAs_test options⟩

/-- A stream in which a failed test is skipped later on, after an event about its namesake in
another file. -/
def rerunStream : String :=
  "\x7b\"type\":\"test-finished\",\"file\":\"a.ts\",\"name\":\"s > t\"," ++
  "\"state\":\"failed\"\x7d\n" ++
  "\x7b\"type\":\"test-finished\",\"file\":\"b.ts\",\"name\":\"s > t\"," ++
  "\"state\":\"passed\"\x7d\n" ++
  "\x7b\"type\":\"test-finished\",\"file\":\"a.ts\",\"name\":\"s > t\"," ++
  "\"state\":\"skipped\"\x7d"

/-- The failure is what is stored, once. -/
theorem VitestRun.tests_eq_fold_rerunStream :
    ∃ r, VitestRun.decode {} {} rerunStream .epoch = .ok r ∧
      (allTests r.suites).filter (·.isKnownBy "a.ts" "s > t") =
        (heldFor {} "a.ts" "s > t" (events rerunStream.toList)).toList ∧
      (heldFor {} "a.ts" "s > t" (events rerunStream.toList)).map
          (fun t => (t.id, t.name, t.status)) =
        some ("a.ts s > t", "t", .failed) := by
  have hok : (VitestRun.decode {} {} rerunStream .epoch).toOption.isSome = true := by
    decide +kernel
  cases hdecode : VitestRun.decode {} {} rerunStream .epoch with
  | error e => rw [hdecode] at hok; cases hok
  | ok r =>
    exact ⟨r, rfl, ((tests_eq_fold hdecode).2 "a.ts" "s > t").1, by decide +kernel⟩

end TestReport
