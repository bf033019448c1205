import TestReport.Proofs.Reruns

/-!
# What the id of a test tells

A test of a Jest or Vitest result goes by an id: the path of its file, a space and its name. Paths
and names may hold spaces too, and nothing marks the one that was put in. So an id does not tell
where the path ends, and two tests of different files can share one (`testIdOf_eq_iff`).

A file that Jest could not run has a test of its own, with a fixed name in its id and with the path
as part of its whole name. So `Test.nameInId` is the whole name for all other tests only, and a test
of that file that happens to have the fixed name shares the id as well.

`Test.Clashes` lists the two ways. The id of every test of a result is made in the same manner
(`Test.IdOfFile`), and therefore there is no third one (`Adapter.id_eq_iff_clashes`).
-/

namespace TestReport

/-! ## Ids as texts -/

/-- Two texts with a separator in them are the same if their parts are, or if one first part goes
on, after a separator, with what the other second part starts with. -/
theorem append_cons_eq_append_cons_iff {α : Type} {c : α} {front back front' back' : List α} :
    front ++ c :: back = front' ++ c :: back' ↔
      (front = front' ∧ back = back') ∨
        (∃ middle, front' = front ++ c :: middle ∧ back = middle ++ c :: back') ∨
        ∃ middle, front = front' ++ c :: middle ∧ back' = middle ++ c :: back := by
  constructor
  · intro h
    rcases List.append_eq_append_iff.1 h with ⟨between, hfront, hback⟩ | ⟨between, hfront, hback⟩
    · cases between with
      | nil => exact .inl ⟨by simpa using hfront.symm, (List.cons.inj hback).2⟩
      | cons d middle =>
        obtain ⟨rfl, htail⟩ := List.cons.inj hback
        exact .inr (.inl ⟨middle, hfront, htail⟩)
    · cases between with
      | nil => exact .inl ⟨by simpa using hfront, (List.cons.inj hback).2.symm⟩
      | cons d middle =>
        obtain ⟨rfl, htail⟩ := List.cons.inj hback
        exact .inr (.inr ⟨middle, hfront, htail⟩)
  · rintro (⟨rfl, rfl⟩ | ⟨middle, rfl, rfl⟩ | ⟨middle, rfl, rfl⟩) <;> simp

/-- Whether a second file and name are a first file and name with the cut moved on: the file goes
on, after a space, with words that the first name starts with. -/
def IsCutLater (file name file' name' : String) : Prop :=
  ∃ words, file' = file ++ " " ++ words ∧ name = words ++ " " ++ name'

theorem isCutLater_iff_toList {file name file' name' : String} :
    IsCutLater file name file' name' ↔
      ∃ words, file'.toList = file.toList ++ ' ' :: words ∧
        name.toList = words ++ ' ' :: name'.toList := by
  constructor
  · rintro ⟨words, rfl, rfl⟩
    exact ⟨words.toList, by simp, by simp⟩
  · rintro ⟨words, hfile, hname⟩
    refine ⟨String.ofList words, String.toList_inj.1 ?_, String.toList_inj.1 ?_⟩
    · simp [hfile]
    · simp [hname]

theorem IsCutLater.file_ne {file name file' name' : String} (h : IsCutLater file name file' name') :
    file ≠ file' := by
  rintro rfl
  obtain ⟨words, hfile, -⟩ := isCutLater_iff_toList.1 h
  have hlength := congrArg List.length hfile
  simp at hlength

theorem testIdOf_eq_iff {file name file' name' : String} :
    testIdOf file name = testIdOf file' name' ↔
      (file = file' ∧ name = name') ∨
        IsCutLater file name file' name' ∨ IsCutLater file' name' file name := by
  have htoList : ∀ f n : String, (testIdOf f n).toList = f.toList ++ ' ' :: n.toList := by
    intro f n
    simp [testIdOf]
  rw [← String.toList_inj, htoList, htoList, append_cons_eq_append_cons_iff, String.toList_inj,
    String.toList_inj, isCutLater_iff_toList, isCutLater_iff_toList]

/-- An id is longer than the name in it. -/
theorem testIdOf_ne_name (file name : String) : testIdOf file name ≠ name := by
  intro h
  have hlength := congrArg String.length h
  simp [testIdOf, String.length_append] at hlength

/-! ## Ids of tests -/

/-- The name in the id of a file that could not be run. -/
def runFailureName : String := "Test suite failed to run"

/-- The name in the id of a test. It is the whole name, but for a file that could not be run, whose
id is its whole name. -/
def Test.nameInId (t : Test) : String :=
  if t.id = t.fullName then runFailureName else t.fullName

/-- Whether a test lies in a file and goes by an id that is made of the file and of a name. -/
structure Test.IdOfFile (t : Test) (file : String) : Prop where
  filePath_eq : t.filePath = some file
  id_eq : t.id = testIdOf file t.nameInId

theorem Test.idOfFile_of_fullName {t : Test} {file : String} (hpath : t.filePath = some file)
    (hid : t.id = testIdOf file t.fullName) : t.IdOfFile file where
  filePath_eq := hpath
  id_eq := by
    have hne : t.id ≠ t.fullName := hid ▸ testIdOf_ne_name file t.fullName
    rw [nameInId, if_neg hne, hid]

theorem JestFile.idOfFile_runFailure (file message : String) :
    (runFailure file message).IdOfFile file where
  filePath_eq := rfl
  id_eq := by
    have hname : (runFailure file message).nameInId = runFailureName := if_pos rfl
    rw [hname]
    apply String.toList_inj.1
    simp [runFailure, runFailureName, testIdOf]

theorem JestFile.idOfFile_of_mem_tests {f : JestFile} {options : Options} {t : String × Test}
    (h : t ∈ f.tests options) : t.2.IdOfFile (f.path options) := by
  rcases List.mem_append.1 h with h | h
  · obtain ⟨a, -, rfl⟩ := List.mem_map.1 h
    exact Test.idOfFile_of_fullName rfl rfl
  · obtain ⟨message, -, rfl⟩ := Option.map_eq_some_iff.1 (Option.mem_toList.1 h)
    exact idOfFile_runFailure (f.path options) message

/-- What holds of the tests of all files holds of all tests of a report. -/
theorem JestReport.forall_mem_suites {P : Test → Prop} {options : Options}
    (h : ∀ (f : JestFile), ∀ t ∈ f.tests options, P t.2) (r : JestReport) :
    ∀ t ∈ allTests (r.suites options), P t := by
  have hnone : ∀ t ∈ allTests [], P t := by simp [allTests]
  refine List.foldlRecOn (motive := fun suites : List Suite => ∀ t ∈ allTests suites, P t)
    r.files _ hnone fun suites hsuites f _ => ?_
  exact List.foldlRecOn (motive := fun suites : List Suite => ∀ t ∈ allTests suites, P t)
    (f.tests options) _ hsuites fun suites hsuites t ht =>
      Suites.forall_mem_push hsuites (h f t ht) _ _

/-- All tests of a Jest or Vitest result have an id of their file. -/
theorem Adapter.idOfFile_of_decode {a : Adapter} (ha : a.framework ≠ .mocha) {options : Options}
    {output : String} {now : Instant} {r : Report} (h : a.decode options output now = .ok r) :
    ∀ t ∈ allTests r.suites, ∃ file, t.IdOfFile file := by
  obtain ⟨framework, environment, defaults⟩ := a
  cases framework with
  | mocha => exact absurd rfl ha
  | jest =>
    obtain ⟨_, written, -, -, rfl⟩ := JestReport.exists_of_decode h
    exact written.forall_mem_suites fun _ _ ht => ⟨_, JestFile.idOfFile_of_mem_tests ht⟩
  | vitest =>
    obtain ⟨-, rfl⟩ := VitestRun.exists_of_decode h
    exact VitestRun.forall_mem_foldl (fun o => ⟨_, Test.idOfFile_of_fullName rfl rfl⟩) _

/-! ## Shared ids -/

/-- How two tests come to share an id though they differ. -/
inductive Test.Clashes (t t' : Test) : Prop
  /-- Words of the one's name are words of the other one's path. -/
  | cutLater {file file' : String} (hfile : t.filePath = some file)
      (hfile' : t'.filePath = some file') (hcut : IsCutLater file t.nameInId file' t'.nameInId)
  /-- A test has the name that stands for its file as a whole, which could not be run. -/
  | runFailure (hfile : t.filePath = t'.filePath) (hid : t.id = t.fullName)
      (hname : t'.fullName = runFailureName)

/-- Of two tests that differ, the name in the id does not tell the whole name only if one of them
stands for a file that could not be run. -/
theorem Test.clashes_of_nameInId_eq {t t' : Test} (hfile : t.filePath = t'.filePath)
    (hne : t.fullName ≠ t'.fullName) (hid : t.id = t'.id) (hname : t.nameInId = t'.nameInId) :
    t.Clashes t' ∨ t'.Clashes t := by
  unfold nameInId at hname
  split at hname
  · next hself =>
    split at hname
    · next hself' => exact absurd (hself.symm.trans (hid.trans hself')) hne
    · exact .inl (.runFailure hfile hself hname.symm)
  · split at hname
    · next hself' => exact .inr (.runFailure hfile.symm hself' hname)
    · exact absurd hname hne

theorem Test.Clashes.differ_and_id_eq {t t' : Test} {file file' : String} (ht : t.IdOfFile file)
    (ht' : t'.IdOfFile file') (h : t.Clashes t') :
    (t.filePath ≠ t'.filePath ∨ t.fullName ≠ t'.fullName) ∧ t.id = t'.id := by
  cases h with
  | cutLater hfile hfile' hcut =>
    cases ht.filePath_eq.symm.trans hfile
    cases ht'.filePath_eq.symm.trans hfile'
    refine ⟨.inl ?_, ?_⟩
    · rw [hfile, hfile']
      exact fun h => hcut.file_ne (Option.some.inj h)
    · rw [ht.id_eq, ht'.id_eq]
      exact testIdOf_eq_iff.2 (.inr (.inl hcut))
  | runFailure hfile hid hname =>
    have hpath : file = file' :=
      Option.some.inj (ht.filePath_eq.symm.trans (hfile.trans ht'.filePath_eq))
    have hname' : t.nameInId = t'.nameInId := by
      simp [nameInId, hid, hname]
    have hids : t.id = t'.id := by
      rw [ht.id_eq, ht'.id_eq, hpath, hname']
    refine ⟨.inr fun hsame => ?_, hids⟩
    have hrun : t.nameInId = runFailureName := if_pos hid
    refine testIdOf_ne_name file runFailureName ?_
    rw [← hrun, ← ht.id_eq, hid, hsame, hname, hrun]

/-- Two tests of a Jest or Vitest result that differ in file or whole name share an id exactly if
they clash. -/
theorem Adapter.id_eq_iff_clashes {a : Adapter} (ha : a.framework ≠ .mocha) {options : Options}
    {output : String} {now : Instant} {r : Report} (h : a.decode options output now = .ok r) :
    ∀ t ∈ allTests r.suites, ∀ t' ∈ allTests r.suites,
      ((t.filePath ≠ t'.filePath ∨ t.fullName ≠ t'.fullName) ∧ t.id = t'.id ↔
        t.Clashes t' ∨ t'.Clashes t) := by
  intro t hmem t' hmem'
  obtain ⟨file, ht⟩ := idOfFile_of_decode ha h t hmem
  obtain ⟨file', ht'⟩ := idOfFile_of_decode ha h t' hmem'
  constructor
  · rintro ⟨hdiffer, hid⟩
    have hids : testIdOf file t.nameInId = testIdOf file' t'.nameInId := by
      rw [← ht.id_eq, ← ht'.id_eq, hid]
    rcases testIdOf_eq_iff.1 hids with ⟨hpath, hname⟩ | hcut | hcut
    · have hfile : t.filePath = t'.filePath := by
        rw [ht.filePath_eq, ht'.filePath_eq, hpath]
      have hne : t.fullName ≠ t'.fullName := hdiffer.resolve_left fun hne => hne hfile
      exact Test.clashes_of_nameInId_eq hfile hne hid hname
    · exact .inl (.cutLater ht.filePath_eq ht'.filePath_eq hcut)
    · exact .inr (.cutLater ht'.filePath_eq ht.filePath_eq hcut)
  · rintro (hclash | hclash)
    · exact hclash.differ_and_id_eq ht ht'
    · obtain ⟨hdiffer, hid⟩ := hclash.differ_and_id_eq ht' ht
      exact ⟨hdiffer.imp Ne.symm Ne.symm, hid.symm⟩

/-! ## Two outputs with shared ids -/

/-- A Jest report of a file that could not be run once, and of a test with the name that stands for
such a file. -/
def fixedNameOutput : String :=
  "\x7b\"numTotalTests\":1,\"testResults\":[" ++
  "\x7b\"name\":\"a.js\",\"status\":\"failed\",\"message\":\"boom\"\x7d," ++
  "\x7b\"name\":\"a.js\",\"assertionResults\":[" ++
  "\x7b\"title\":\"Test suite failed to run\",\"status\":\"passed\"\x7d]\x7d]\x7d"

/-- The two tests of the report clash. -/
theorem Adapter.id_eq_iff_clashes_fixedName :
    ∃ r, Adapter.decode ⟨.jest, {}, {}⟩ {} fixedNameOutput .epoch = .ok r ∧
      ∃ t ∈ allTests r.suites, ∃ t' ∈ allTests r.suites, t.Clashes t' ∨ t'.Clashes t := by
  have hshared : (Adapter.decode ⟨.jest, {}, {}⟩ {} fixedNameOutput .epoch).toOption.any
      (fun r : Report => decide (∃ t ∈ allTests r.suites, ∃ t' ∈ allTests r.suites,
        t.fullName ≠ t'.fullName ∧ t.id = t'.id)) = true := by
    unfold Adapter.decode Framework.decode JestReport.decode fixedNameOutput
    simp only [String.toList_append]
    decide +kernel
  obtain ⟨r, hdecode, hchecked⟩ := exists_of_any_decode hshared
  obtain ⟨t, ht, t', ht', hne, hid⟩ := of_decide_eq_true hchecked
  have hiff := id_eq_iff_clashes (a := ⟨.jest, {}, {}⟩) (by decide) hdecode t ht t' ht'
  exact ⟨r, hdecode, t, ht, t', ht', hiff.1 ⟨.inr hne, hid⟩⟩

/-- A stream about two tests, one in a file whose path starts with the other one's and a space. -/
def spacedPathStream : String :=
  "\x7b\"type\":\"test-finished\",\"file\":\"a\",\"name\":\"b c\",\"state\":\"passed\"\x7d\n" ++
  "\x7b\"type\":\"test-finished\",\"file\":\"a b\",\"name\":\"c\",\"state\":\"passed\"\x7d"

/-- Tests of two files share an id. -/
theorem Adapter.id_eq_of_spacedPathStream :
    ∃ r, Adapter.decode ⟨.vitest, {}, {}⟩ {} spacedPathStream .epoch = .ok r ∧
      ∃ t ∈ allTests r.suites, ∃ t' ∈ allTests r.suites,
        (t.filePath ≠ t'.filePath ∨ t.fullName ≠ t'.fullName) ∧ t.id = t'.id := by
  have hshared : (Adapter.decode ⟨.vitest, {}, {}⟩ {} spacedPathStream .epoch).toOption.any
      (fun r : Report => decide (∃ t ∈ allTests r.suites, ∃ t' ∈ allTests r.suites,
        t.filePath ≠ t'.filePath ∧ t.id = t'.id)) = true := by
    unfold Adapter.decode Framework.decode VitestRun.decode spacedPathStream
    simp only [String.toList_append]
    decide +kernel
  obtain ⟨r, hdecode, hchecked⟩ := exists_of_any_decode hshared
  obtain ⟨t, ht, t', ht', hne, hid⟩ := of_decide_eq_true hchecked
  exact ⟨r, hdecode, t, ht, t', ht', .inl hne, hid⟩

end TestReport
