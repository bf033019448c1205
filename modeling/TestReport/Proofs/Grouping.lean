import TestReport.Proofs.Decoded
import TestReport.Proofs.Suites
import Mathlib.Data.List.Forall2
import Mathlib.Data.List.Induction

/-!
# Suites are groups of tests

Mocha and Jest list their tests, each of which belongs to a suite with a name and a file. The suites
of a result are the groups of that list: one suite for each key, in the order in which keys first
appear, and in it the tests of the key, in the order of the list. So no test is lost, comes twice or
overtakes another one of its suite (`Adapter.suites_eq_grouped`).

`Suites.grouped` says this without a word about how suites are filled. Filling them test by test
comes to the same, since one more test at the end of a list changes its groups as `Suites.push`
changes suites (`push_grouped`): it is the last test of the group of its key, or makes a new group
that comes last. The rest is about the lists themselves. That of Mocha has its three collections one
after the other; that of Jest goes through the files, and a file that could not be run stands there
with a single test (`JestFile.listed`). Which test stands in a list for an entry, an assertion or a
file, and in which suite it belongs, is told field by field (`MochaEntry.IsListedAs`,
`JestAssertion.IsListedAs`, `JestFile.IsListedAs`).
-/

namespace TestReport

/-! ## Groups -/

/-- A test with the name and the file of its suite. -/
abbrev KeyedTest := (String × String) × Test

/-- The suite that has a key and some tests. -/
def Suite.ofTests (key : String × String) (tests : List Test) : Suite where
  name := key.1
  filePath := key.2
  duration := sumSat (tests.map (·.duration))
  status := if tests.any (·.status.isFailure) then .failed else .passed
  tests := tests

namespace Suites

/-- The keys of a list of tests in the order in which they first appear. -/
def firstKeys (listed : List KeyedTest) : List (String × String) :=
  (listed.map (·.1)).eraseDups

/-- The tests with a key, in the order of the list. -/
def group (listed : List KeyedTest) (key : String × String) : List Test :=
  (listed.filter (·.1 = key)).map (·.2)

/-- The groups of a list of tests as suites. -/
def grouped (listed : List KeyedTest) : List Suite :=
  (firstKeys listed).map fun key => Suite.ofTests key (group listed key)

/-- The suites that a list of tests fills, one test after the other. -/
def fill (listed : List KeyedTest) (suites : List Suite) : List Suite :=
  listed.foldl (fun suites t => push suites t.1.1 t.1.2 t.2) suites

end Suites

@[simp] theorem Suite.key_ofTests (key : String × String) (tests : List Test) :
    (Suite.ofTests key tests).key = key :=
  rfl

theorem Suite.push_ofTests (key : String × String) (tests : List Test) (test : Test) :
    (Suite.ofTests key tests).push test = Suite.ofTests key (tests ++ [test]) := by
  have hduration : addSat (sumSat (tests.map (·.duration))) test.duration =
      sumSat ((tests ++ [test]).map (·.duration)) := by
    simp [sumSat, List.foldl_append]
  have hstatus : (Suite.ofTests key tests).status.absorb test.status =
      (Suite.ofTests key (tests ++ [test])).status := by
    cases hfail : test.status.isFailure <;>
      simp [Suite.ofTests, SuiteStatus.absorb, List.any_append, hfail]
  unfold Suite.push
  rw [hstatus]
  simp only [Suite.ofTests]
  rw [hduration]

/-! ## One more test -/

theorem nodup_eraseDups {α : Type} [BEq α] [LawfulBEq α] (l : List α) : l.eraseDups.Nodup := by
  induction l using List.reverseRecOn with
  | nil => exact List.Pairwise.nil
  | append_singleton l a ih =>
    rw [List.eraseDups_append]
    by_cases hmem : a ∈ l
    · simpa [List.removeAll, hmem] using ih
    · have hlast : ([a].removeAll l).eraseDups = [a] := by
        simp [List.removeAll, hmem, List.eraseDups_cons]
      rw [hlast]
      refine List.nodup_append.2 ⟨ih, by simp, ?_⟩
      rintro b hb c hc rfl
      exact hmem (List.mem_singleton.1 hc ▸ List.mem_eraseDups.1 hb)

namespace Suites

variable {listed : List KeyedTest} {t : KeyedTest} {key : String × String}

theorem mem_firstKeys : key ∈ firstKeys listed ↔ ∃ t ∈ listed, t.1 = key := by
  rw [firstKeys, List.mem_eraseDups, List.mem_map]

theorem firstKeys_concat_of_mem (h : t.1 ∈ firstKeys listed) :
    firstKeys (listed ++ [t]) = firstKeys listed := by
  have hmem : t.1 ∈ listed.map (·.1) := List.mem_eraseDups.1 h
  rw [firstKeys, List.map_append, List.eraseDups_append]
  simp [List.removeAll, firstKeys, hmem]

theorem firstKeys_concat_of_not_mem (h : t.1 ∉ firstKeys listed) :
    firstKeys (listed ++ [t]) = firstKeys listed ++ [t.1] := by
  have hmem : t.1 ∉ listed.map (·.1) := fun hmem => h (List.mem_eraseDups.2 hmem)
  rw [firstKeys, List.map_append, List.eraseDups_append]
  simp [List.removeAll, firstKeys, hmem, List.eraseDups_cons]

theorem nodup_firstKeys (listed : List KeyedTest) : (firstKeys listed).Nodup :=
  nodup_eraseDups _

theorem group_concat_self : group (listed ++ [t]) t.1 = group listed t.1 ++ [t.2] := by
  simp [group]

theorem group_concat_of_ne (h : key ≠ t.1) : group (listed ++ [t]) key = group listed key := by
  simp [group, h.symm]

theorem group_eq_nil (h : key ∉ firstKeys listed) : group listed key = [] := by
  have hnone : listed.filter (·.1 = key) = [] := by
    refine List.filter_eq_nil_iff.2 fun t ht hkey => h ?_
    exact mem_firstKeys.2 ⟨t, ht, by simpa using hkey⟩
  rw [group, hnone, List.map_nil]

/-- Changing the suite of a key among suites that are listed by their keys. -/
theorem changeSuite_map {f : String × String → Suite} (hf : ∀ k, (f k).key = k)
    {keys : List (String × String)} (hnodup : keys.Nodup) (change : Suite → Suite) :
    changeSuite key.1 key.2 change (keys.map f) =
      if key ∈ keys then keys.map fun k => if k = key then change (f k) else f k
      else keys.map f ++ [change { name := key.1, filePath := key.2 }] := by
  induction keys with
  | nil => rfl
  | cons k keys ih =>
    obtain ⟨hnew, hnodup⟩ := List.nodup_cons.1 hnodup
    rw [List.map_cons]
    unfold changeSuite
    by_cases hkey : k = key
    · subst hkey
      have hat : (f k).isAt k.1 k.2 = true := Suite.isAt_iff.2 (hf k)
      have hrest : keys.map (fun l => if l = k then change (f l) else f l) = keys.map f := by
        refine List.map_congr_left fun l hl => if_neg ?_
        rintro rfl
        exact hnew hl
      rw [if_pos hat, if_pos List.mem_cons_self, List.map_cons, if_pos rfl, hrest]
    · have hat : ¬ (f k).isAt key.1 key.2 = true := fun hat =>
        hkey ((hf k).symm.trans (Suite.isAt_iff.1 hat))
      have hmem : key ∈ k :: keys ↔ key ∈ keys := by
        simp [Ne.symm hkey]
      rw [if_neg hat, ih hnodup]
      by_cases hin : key ∈ keys
      · rw [if_pos hin, if_pos (hmem.2 hin), List.map_cons, if_neg hkey]
      · rw [if_neg hin, if_neg (hmem.not.2 hin), List.cons_append]

/-- One more test at the end of a list changes its groups as putting the test in changes suites. -/
theorem push_grouped (listed : List KeyedTest) (t : KeyedTest) :
    push (grouped listed) t.1.1 t.1.2 t.2 = grouped (listed ++ [t]) := by
  rw [push, grouped, changeSuite_map (fun _ => rfl) (nodup_firstKeys listed)]
  by_cases hmem : t.1 ∈ firstKeys listed
  · rw [if_pos hmem, grouped, firstKeys_concat_of_mem hmem]
    refine List.map_congr_left fun key _ => ?_
    by_cases hkey : key = t.1
    · rw [if_pos hkey, hkey, Suite.push_ofTests, group_concat_self]
    · rw [if_neg hkey, group_concat_of_ne hkey]
  · have hnew : ({ name := t.1.1, filePath := t.1.2 : Suite }).push t.2 =
        Suite.ofTests t.1 (group (listed ++ [t]) t.1) := by
      rw [group_concat_self, group_eq_nil hmem]
      exact Suite.push_ofTests t.1 [] t.2
    have hold : ∀ key ∈ firstKeys listed, group (listed ++ [t]) key = group listed key := by
      intro key hkey
      refine group_concat_of_ne ?_
      rintro rfl
      exact hmem hkey
    rw [if_neg hmem, grouped, firstKeys_concat_of_not_mem hmem, List.map_append, List.map_singleton,
      hnew]
    congr 1
    exact List.map_congr_left fun key hkey => by rw [hold key hkey]

/-- Suites that are filled test by test are the groups of the tests. -/
theorem fill_eq_grouped (listed : List KeyedTest) : fill listed [] = grouped listed := by
  induction listed using List.reverseRecOn with
  | nil => rfl
  | append_singleton listed t ih =>
    rw [fill, List.foldl_append, List.foldl_cons, List.foldl_nil]
    exact (congrArg (push · t.1.1 t.1.2 t.2) ih).trans (push_grouped listed t)

/-! ## Nothing lost, nothing twice -/

theorem allTests_push_perm (suites : List Suite) (name filePath : String) (test : Test) :
    (allTests (push suites name filePath test)).Perm (test :: allTests suites) := by
  refine allTests_changeSuite_perm ?_
  rw [testsAt_eq_tests]
  rfl

/-- The groups of a list hold its tests, each as often as the list does. -/
theorem allTests_grouped_perm (listed : List KeyedTest) :
    (allTests (grouped listed)).Perm (listed.map (·.2)) := by
  induction listed using List.reverseRecOn with
  | nil => exact List.Perm.refl _
  | append_singleton listed t ih =>
    rw [← push_grouped, List.map_append]
    calc
      (allTests (push (grouped listed) t.1.1 t.1.2 t.2)).Perm (t.2 :: allTests (grouped listed)) :=
        allTests_push_perm _ _ _ _
      (t.2 :: allTests (grouped listed)).Perm (t.2 :: listed.map (·.2)) := ih.cons t.2
      (t.2 :: listed.map (·.2)).Perm (listed.map (·.2) ++ [t].map (·.2)) :=
        (List.perm_append_singleton _ _).symm

end Suites

/-! ## The lists of tests -/

/-- The test that an entry of the list for `status` is, with the key of its suite. -/
def MochaEntry.keyed (e : MochaEntry) (status : Status) (options : Options) : KeyedTest :=
  ((e.suiteName options, (e.path options).getD ""), e.test status options)

/-- The tests of a Mocha report. -/
def MochaReport.listed (r : MochaReport) (options : Options) : List KeyedTest :=
  r.passes.map (·.keyed .passed options) ++ r.failures.map (·.keyed .failed options) ++
    r.pending.map (·.keyed .skipped options)

/-- The test that an assertion of a file is, with the key of its suite. -/
def JestAssertion.keyed (a : JestAssertion) (path : String) : KeyedTest :=
  ((a.suiteName path, path), a.test path)

/-- The first message of a file that is not blank. -/
def JestFile.spoken? (f : JestFile) : Option String :=
  (f.message.filter fun m => !Text.isAllBlank m.toList).or
    (f.failureMessage.filter fun m => !Text.isAllBlank m.toList)

/-- The tests of a file: one for each assertion, or else a single failed one if the file failed and
says why. -/
def JestFile.listed (f : JestFile) (options : Options) : List KeyedTest :=
  if f.assertions ≠ [] then f.assertions.map (·.keyed (f.path options))
  else if f.status = "failed" then
    f.spoken?.toList.map fun m => ((f.path options, f.path options), runFailure (f.path options) m)
  else []

/-- The tests of a Jest report. -/
def JestReport.listed (r : JestReport) (options : Options) : List KeyedTest :=
  r.files.flatMap (·.listed options)

theorem MochaReport.suites_grouped (r : MochaReport) (options : Options) :
    r.suites options = Suites.grouped (r.listed options) := by
  have hlisted : r.listed options = r.entries.map fun e => e.1.keyed e.2 options := by
    simp only [MochaReport.listed, MochaReport.entries, List.map_append, List.map_map,
      Function.comp_def]
  have hplace : ∀ (suites : List Suite) (e : MochaEntry × Status),
      e.1.place e.2 options suites =
        Suites.push suites (e.1.keyed e.2 options).1.1 (e.1.keyed e.2 options).1.2
          (e.1.keyed e.2 options).2 := by
    intro suites e
    rw [MochaEntry.place, MochaEntry.keyed]
  rw [← Suites.fill_eq_grouped, hlisted, Suites.fill, List.foldl_map, MochaReport.suites]
  simp only [hplace]

theorem MochaReport.allTests_suites_perm (r : MochaReport) (options : Options) :
    (allTests (r.suites options)).Perm ((r.listed options).map (·.2)) := by
  rw [r.suites_grouped]
  exact Suites.allTests_grouped_perm (r.listed options)

theorem JestFile.runError?_eq_spoken? {f : JestFile} (hnone : f.assertions = [])
    (hfailed : f.status = "failed") : f.runError? = f.spoken? := by
  unfold JestFile.runError? JestFile.spoken?
  rw [if_pos ⟨List.isEmpty_iff.2 hnone, hfailed⟩]
  cases f.message with
  | none => cases f.failureMessage <;> simp [Option.filter]
  | some m =>
    cases hblank : Text.isAllBlank m.toList <;> cases f.failureMessage <;>
      simp [Option.filter, hblank]

theorem JestFile.listed_eq_map_tests (f : JestFile) (options : Options) :
    f.listed options = (f.tests options).map fun t => ((t.1, f.path options), t.2) := by
  unfold JestFile.listed JestFile.tests
  by_cases hsome : f.assertions ≠ []
  · have hran : f.runError? = none := if_neg fun h => hsome (List.isEmpty_iff.1 h.1)
    simp [hsome, hran, JestAssertion.keyed]
  · have hnone : f.assertions = [] := not_not.1 hsome
    by_cases hfailed : f.status = "failed"
    · rw [JestFile.runError?_eq_spoken? hnone hfailed, if_neg hsome, if_pos hfailed, hnone]
      cases f.spoken? <;> rfl
    · have hran : f.runError? = none := if_neg fun h => hfailed h.2
      simp [hnone, hfailed, hran]

theorem JestReport.suites_grouped (r : JestReport) (options : Options) :
    r.suites options = Suites.grouped (r.listed options) := by
  have hplace : ∀ (f : JestFile) (suites : List Suite),
      f.place options suites = Suites.fill (f.listed options) suites := by
    intro f suites
    rw [JestFile.listed_eq_map_tests, Suites.fill, List.foldl_map, JestFile.place]
  rw [← Suites.fill_eq_grouped, JestReport.listed, JestReport.suites, Suites.fill,
    List.foldl_flatMap]
  simp only [hplace, Suites.fill]

theorem JestReport.allTests_suites_perm (r : JestReport) (options : Options) :
    (allTests (r.suites options)).Perm ((r.listed options).map (·.2)) := by
  rw [r.suites_grouped]
  exact Suites.allTests_grouped_perm (r.listed options)

theorem JestFile.isSome_spoken?_iff {f : JestFile} :
    f.spoken?.isSome = true ↔
      ∃ m, (f.message = some m ∨ f.failureMessage = some m) ∧
        Text.isAllBlank m.toList = false := by
  rw [JestFile.spoken?, Option.isSome_or, Bool.or_eq_true]
  constructor
  · rintro (h | h)
    · obtain ⟨m, hm⟩ := Option.isSome_iff_exists.1 h
      obtain ⟨hmessage, hblank⟩ := Option.filter_eq_some_iff.1 hm
      exact ⟨m, .inl hmessage, by simpa using hblank⟩
    · obtain ⟨m, hm⟩ := Option.isSome_iff_exists.1 h
      obtain ⟨hmessage, hblank⟩ := Option.filter_eq_some_iff.1 hm
      exact ⟨m, .inr hmessage, by simpa using hblank⟩
  · rintro ⟨m, hmessage | hmessage, hblank⟩
    · exact .inl (by simp [hmessage, hblank, Option.filter])
    · exact .inr (by simp [hmessage, hblank, Option.filter])

/-! ## What the lists tell -/

/-- The test as which an entry of the list for `status` is listed, with the key of its suite: the
fields of both are those that the entry tells. -/
structure MochaEntry.IsListedAs (status : Status) (options : Options) (e : MochaEntry)
    (t : KeyedTest) : Prop where
  fullName_eq : t.2.fullName = if e.fullTitle = "" then e.title else e.fullTitle
  id_eq : t.2.id = t.2.fullName
  /-- An entry without a title goes by the last word of its full title. -/
  name_eq : t.2.name =
    if e.title = "" then String.ofList (Text.splitTitle t.2.fullName.toList).2 else e.title
  status_eq : t.2.status = status
  duration_eq : t.2.duration = wholeMillis e.duration
  filePath_eq : t.2.filePath = e.file.map (Text.normalizePath options.normalizeFilePaths)
  /-- Failed tests have the error of their entry, and no other test has one. -/
  error_eq :
    let error := e.err.getD {}
    t.2.error =
      if status = .failed then some
        { message := error.message.getD ""
          stack := error.stack.getD ""
          kind := error.name.getD "Error"
          diff := error.diff
          actual := error.actual
          expected := error.expected }
      else none
  suiteFile_eq : t.1.2 = t.2.filePath.getD ""
  /-- The suite has the name at the front of the full title, or else that of its file. -/
  suiteName_eq :
    let front := (Text.splitTitle t.2.fullName.toList).1
    t.1.1 = if front ≠ [] then String.ofList front else if t.1.2 ≠ "" then t.1.2 else "(root)"

/-- Whether an assertion says that it ran out of time, by a flag or by the message of a failure. -/
def JestAssertion.RanOutOfTime (a : JestAssertion) : Prop :=
  a.timedOut = some true ∨
    Status.ofNative a.status = .failed ∧
      ∃ m ∈ a.failureMessages, "Exceeded timeout of".toList <:+: m.toList

/-- The test as which an assertion of a file with a path is listed, with the key of its suite. -/
structure JestAssertion.IsListedAs (path : String) (a : JestAssertion) (t : KeyedTest) :
    Prop where
  fullName_eq : t.2.fullName =
    if a.fullName = "" then " ".intercalate (a.ancestorTitles ++ [a.title]) else a.fullName
  id_eq : t.2.id = path ++ " " ++ t.2.fullName
  name_eq : t.2.name = a.title
  status_of_ranOutOfTime : a.RanOutOfTime → t.2.status = .timedOut
  status_of_not_ranOutOfTime : ¬a.RanOutOfTime → t.2.status = Status.ofNative a.status
  duration_eq : t.2.duration = wholeMillis a.duration
  filePath_eq : t.2.filePath = some path
  /-- Failures have the error that their messages tell, and no other test has one. -/
  error_eq :
    let messages := a.failureMessages.map fun m => Text.stripEscapes m.toList
    let first := Text.firstLine (messages.headD [])
    let matcher := a.failureDetails.findSome? (·.get? "matcherResult")
    t.2.error =
      if t.2.status = .failed ∨ t.2.status = .timedOut then some
        { message := String.ofList first
          stack := "\n".intercalate (messages.map String.ofList)
          kind := Text.errorKind first
          actual := matcher.bind (·.get? "actual")
          expected := matcher.bind (·.get? "expected") }
      else none
  suiteFile_eq : t.1.2 = path
  suiteName_eq : t.1.1 = if a.ancestorTitles = [] then path else " ".intercalate a.ancestorTitles

/-- The failed test as which a file with a path is listed that could not be run, with the key of its
suite. -/
structure JestFile.IsRunFailure (path message : String) (t : KeyedTest) : Prop where
  fullName_eq : t.2.fullName = path ++ " Test suite failed to run"
  id_eq : t.2.id = path ++ " Test suite failed to run"
  name_eq : t.2.name = "Test suite failed to run"
  status_eq : t.2.status = .failed
  duration_eq : t.2.duration = 0
  filePath_eq : t.2.filePath = some path
  error_eq :
    let clean := Text.stripEscapes message.toList
    t.2.error = some
      { message := String.ofList (Text.firstLine clean)
        stack := String.ofList clean
        kind := Text.errorKind (Text.firstLine clean) }
  suite_eq : t.1 = (path, path)

/-- The tests as which a file is listed: one for each assertion, in order; or else a single one, if
the file failed and says why; or else none. -/
inductive JestFile.IsListedAs (options : Options) (f : JestFile) : List KeyedTest → Prop
  | ran {tests : List KeyedTest} (hsome : f.assertions ≠ [])
      (htests : List.Forall₂
        (JestAssertion.IsListedAs (Text.normalizePath options.normalizeFilePaths f.name))
        f.assertions tests) :
      IsListedAs options f tests
  | broken {message : String} {t : KeyedTest} (hnone : f.assertions = [])
      (hfailed : f.status = "failed") (hmessage : f.spoken? = some message)
      (htest : IsRunFailure (Text.normalizePath options.normalizeFilePaths f.name) message t) :
      IsListedAs options f [t]
  | empty (hnone : f.assertions = [])
      (hsilent : f.status = "failed" → ∀ m, f.message = some m ∨ f.failureMessage = some m →
        Text.isAllBlank m.toList = true) :
      IsListedAs options f []

/-- A list is related to its image where each element is to its own. -/
theorem forall₂_map {α β : Type} {R : α → β → Prop} {f : α → β} (h : ∀ x, R x (f x))
    (l : List α) : List.Forall₂ R l (l.map f) :=
  List.forall₂_map_right_iff.2 (List.forall₂_same.2 fun x _ => h x)

theorem MochaEntry.isListedAs_keyed (status : Status) (options : Options) (e : MochaEntry) :
    e.IsListedAs status options (e.keyed status options) where
  fullName_eq := by
    show e.wholeTitle = _
    simp [wholeTitle]
  id_eq := rfl
  name_eq := by simp [keyed, test]
  status_eq := rfl
  duration_eq := rfl
  filePath_eq := rfl
  error_eq := rfl
  suiteFile_eq := rfl
  suiteName_eq := by simp [keyed, suiteName, test, path]

theorem JestAssertion.ranOutOfTime_iff {a : JestAssertion} :
    a.RanOutOfTime ↔ a.timedOut = some true ∨ Status.ofNative a.status = .failed ∧
      a.failureMessages.any (fun m => Text.occursIn "Exceeded timeout of".toList m.toList) =
        true := by
  simp only [RanOutOfTime, List.any_eq_true, Text.occursIn_iff]

theorem JestAssertion.isListedAs_keyed (path : String) (a : JestAssertion) :
    a.IsListedAs path (a.keyed path) where
  fullName_eq := by
    show a.wholeName = _
    simp [wholeName]
  id_eq := rfl
  name_eq := rfl
  status_of_ranOutOfTime h := if_pos (ranOutOfTime_iff.1 h)
  status_of_not_ranOutOfTime h := if_neg (mt ranOutOfTime_iff.2 h)
  duration_eq := rfl
  filePath_eq := rfl
  error_eq := by
    simp only [keyed, test, ← Status.isFailure_iff]
    rfl
  suiteFile_eq := rfl
  suiteName_eq := by simp [keyed, suiteName]

theorem JestFile.isRunFailure_runFailure (path message : String) :
    IsRunFailure path message ((path, path), runFailure path message) where
  fullName_eq := rfl
  id_eq := rfl
  name_eq := rfl
  status_eq := rfl
  duration_eq := rfl
  filePath_eq := rfl
  error_eq := rfl
  suite_eq := rfl

theorem JestFile.isListedAs_listed (options : Options) (f : JestFile) :
    f.IsListedAs options (f.listed options) := by
  unfold JestFile.listed
  by_cases hsome : f.assertions ≠ []
  · rw [if_pos hsome]
    exact .ran hsome (forall₂_map (JestAssertion.isListedAs_keyed _) f.assertions)
  · have hnone : f.assertions = [] := not_not.1 hsome
    rw [if_neg hsome]
    by_cases hfailed : f.status = "failed"
    · rw [if_pos hfailed]
      cases hspoken : f.spoken? with
      | some message =>
        exact .broken hnone hfailed hspoken (isRunFailure_runFailure _ message)
      | none =>
        refine .empty hnone fun _ m hm => ?_
        by_contra hblank
        have hsaid := isSome_spoken?_iff.2 ⟨m, hm, Bool.eq_false_iff.2 hblank⟩
        rw [hspoken] at hsaid
        cases hsaid
    · rw [if_neg hfailed]
      exact .empty hnone fun h => absurd h hfailed

/-! ## Decoded reports -/

/-- The suites of a decoded report are the groups of its tests, and hold each of them once. For
Mocha these are the passes, the failures and the pending tests, in this order; for Jest, those of
each file in turn, where a file without assertions has one test if it failed with a message and else
none. Each test has the fields that its entry, its assertion or its file tells. -/
theorem Adapter.suites_eq_grouped {a : Adapter} {options : Options} {output : String}
    {now : Instant} {r : Report} (h : a.decode options output now = .ok r) :
    (a.framework = .mocha → ∃ members written passed failed skipped,
      findObject output.toList "mocha" "stats" = .ok members ∧
      MochaReport.ofMembers? members = .ok written ∧
      List.Forall₂ (MochaEntry.IsListedAs .passed options) written.passes passed ∧
      List.Forall₂ (MochaEntry.IsListedAs .failed options) written.failures failed ∧
      List.Forall₂ (MochaEntry.IsListedAs .skipped options) written.pending skipped ∧
      r.suites = Suites.grouped (passed ++ failed ++ skipped) ∧
      (allTests r.suites).Perm ((passed ++ failed ++ skipped).map (·.2))) ∧
    (a.framework = .jest → ∃ members written listed,
      locateReport output.toList = .ok members ∧
      JestReport.ofMembers? members = .ok written ∧
      List.Forall₂ (JestFile.IsListedAs options) written.files listed ∧
      r.suites = Suites.grouped listed.flatten ∧
      (allTests r.suites).Perm (listed.flatten.map (·.2))) := by
  obtain ⟨framework, environment, defaults⟩ := a
  constructor
  · rintro rfl
    obtain ⟨members, written, hfound, hwritten, rfl⟩ := MochaReport.exists_of_decode h
    exact ⟨members, written, _, _, _, hfound, hwritten,
      forall₂_map (MochaEntry.isListedAs_keyed .passed options) _,
      forall₂_map (MochaEntry.isListedAs_keyed .failed options) _,
      forall₂_map (MochaEntry.isListedAs_keyed .skipped options) _,
      written.suites_grouped options, written.allTests_suites_perm options⟩
  · rintro rfl
    obtain ⟨members, written, hfound, hwritten, rfl⟩ := JestReport.exists_of_decode h
    exact ⟨members, written, _, hfound, hwritten,
      forall₂_map (JestFile.isListedAs_listed options) _,
      written.suites_grouped options, written.allTests_suites_perm options⟩

/-- A Mocha report in which the tests of two suites alternate. -/
def alternatingOutput : String :=
  "\x7b\"stats\":\x7b\x7d,\"passes\":[" ++
  "\x7b\"fullTitle\":\"A x\",\"file\":\"a.js\"\x7d,\x7b\"fullTitle\":\"B y\"\x7d," ++
  "\x7b\"fullTitle\":\"A z\",\"file\":\"a.js\"\x7d]," ++
  "\"failures\":[\x7b\"fullTitle\":\"B w\"\x7d]\x7d"

/-- A Jest report of two files, the second of which could not be run. -/
def unloadedFileOutput : String :=
  "\x7b\"numTotalTests\":1,\"testResults\":[\x7b\"name\":\"a.js\",\"assertionResults\":[" ++
  "\x7b\"title\":\"t\",\"status\":\"passed\"\x7d]\x7d," ++
  "\x7b\"name\":\"b.js\",\"status\":\"failed\",\"failureMessage\":\"boom\"\x7d]\x7d"

/-- The tests of each suite come together in order, each with the outcome of its list, and the file
gets its failed test. -/
theorem Adapter.suites_eq_grouped_alternating :
    (∃ r written passed failed skipped,
      Adapter.decode ⟨.mocha, {}, {}⟩ {} alternatingOutput .epoch = .ok r ∧
      List.Forall₂ (MochaEntry.IsListedAs .passed {}) (MochaReport.passes written) passed ∧
      r.suites = Suites.grouped (passed ++ failed ++ skipped) ∧
      r.suites.map (fun s => (s.key, s.tests.map fun t => (t.id, t.status))) =
        [(("A", "a.js"), [("A x", .passed), ("A z", .passed)]),
          (("B", ""), [("B y", .passed), ("B w", .failed)])]) ∧
    ∃ r written listed,
      Adapter.decode ⟨.jest, {}, {}⟩ {} unloadedFileOutput .epoch = .ok r ∧
      List.Forall₂ (JestFile.IsListedAs {}) (JestReport.files written) listed ∧
      r.suites = Suites.grouped listed.flatten ∧
      r.suites.map (fun s => (s.key, s.tests.map fun t => (t.id, t.status))) =
        [(("a.js", "a.js"), [("a.js t", .passed)]),
          (("b.js", "b.js"), [("b.js Test suite failed to run", .failed)])] := by
  have hmocha : (Adapter.decode ⟨.mocha, {}, {}⟩ {} alternatingOutput .epoch).toOption.any
      (fun r => r.suites.map (fun s => (s.key, s.tests.map fun t => (t.id, t.status))) =
        [(("A", "a.js"), [("A x", .passed), ("A z", .passed)]),
          (("B", ""), [("B y", .passed), ("B w", .failed)])]) = true := by
    unfold Adapter.decode Framework.decode MochaReport.decode alternatingOutput
    simp only [String.toList_append]
    decide +kernel
  have hjest : (Adapter.decode ⟨.jest, {}, {}⟩ {} unloadedFileOutput .epoch).toOption.any
      (fun r => r.suites.map (fun s => (s.key, s.tests.map fun t => (t.id, t.status))) =
        [(("a.js", "a.js"), [("a.js t", .passed)]),
          (("b.js", "b.js"), [("b.js Test suite failed to run", .failed)])]) = true := by
    unfold Adapter.decode Framework.decode JestReport.decode unloadedFileOutput
    simp only [String.toList_append]
    decide +kernel
  constructor
  · obtain ⟨r, hdecode, htests⟩ := exists_of_any_decode hmocha
    obtain ⟨_, written, passed, failed, skipped, -, -, hpassed, -, -, hsuites, -⟩ :=
      (suites_eq_grouped hdecode).1 rfl
    exact ⟨r, written, passed, failed, skipped, hdecode, hpassed, hsuites, of_decide_eq_true htests⟩
  · obtain ⟨r, hdecode, htests⟩ := exists_of_any_decode hjest
    obtain ⟨_, written, listed, -, -, hlisted, hsuites, -⟩ := (suites_eq_grouped hdecode).2 rfl
    exact ⟨r, written, listed, hdecode, hlisted, hsuites, of_decide_eq_true htests⟩

end TestReport
