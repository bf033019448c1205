import TestReport.Suites
import Mathlib.Algebra.Ring.Nat

/-!
# Suites as a keyed store

A list of suites that is filled by `Suites.push` and `Suites.upsert` is a store with two levels. A
suite is found by its *key*, its name and its file; inside a suite a test is found by its id. Both
ways of filling go through `changeSuite`, so what one step can do is said once, for any change of a
suite that keeps its key:

* the keys are those from before, with the new one last if it was not there
  (`map_key_changeSuite`), so that no key comes twice (`nodup_key_changeSuite`);
* every suite is one from before or the outcome of the change (`forall_mem_changeSuite`).

Looking up after a change finds the changed suite under its key, and under every other key what
was there before (`find?_changeSuite_self`, `find?_changeSuite_of_ne`); inside a suite
`replaceTest` obeys the same two laws for ids (`filter_replaceTest_self`,
`filter_replaceTest_of_ne`).

The last part is about one suite. `Suite.Settled` says that it has tests and that its duration and
outcome are those of its tests. Adding up as tests arrive (`Suite.push`) and counting again
(`Suite.upsert`) both give it, also where the duration has reached the largest word.
-/

namespace TestReport

/-! ## Sums of words -/

theorem toNat_foldl_addSat (start : UInt64) (words : List UInt64) :
    (words.foldl addSat start).toNat = min (start.toNat + (words.map (·.toNat)).sum) maxWord := by
  induction words generalizing start with
  | nil =>
    have hlt : start.toNat < 2 ^ 64 := start.toNat_lt
    have hle : start.toNat ≤ maxWord := Nat.le_sub_one_of_lt hlt
    simpa using (Nat.min_eq_left hle).symm
  | cons w rest ih =>
    rw [List.foldl_cons, ih, toNat_addSat, List.map_cons, List.sum_cons]
    omega

/-- A saturating sum is the sum in natural numbers, cut off at the largest word. -/
theorem toNat_sumSat (words : List UInt64) :
    (sumSat words).toNat = min (words.map (·.toNat)).sum maxWord := by
  rw [sumSat, toNat_foldl_addSat]
  simp

/-! ## Keys -/

/-- What a suite is known by. -/
def Suite.key (suite : Suite) : String × String :=
  (suite.name, suite.filePath)

theorem Suite.isAt_iff {suite : Suite} {name filePath : String} :
    suite.isAt name filePath = true ↔ suite.key = (name, filePath) := by
  simp [Suite.isAt, Suite.key]

theorem Suite.find?_cons_of_isAt {s : Suite} {name filePath : String}
    (h : s.isAt name filePath = true) (rest : List Suite) :
    (s :: rest).find? (·.isAt name filePath) = some s := by
  simp [h]

theorem Suite.find?_cons_of_not_isAt {s : Suite} {name filePath : String}
    (h : ¬ s.isAt name filePath = true) (rest : List Suite) :
    (s :: rest).find? (·.isAt name filePath) = rest.find? (·.isAt name filePath) := by
  simp [h]

@[simp] theorem Suite.key_push (suite : Suite) (test : Test) : (suite.push test).key = suite.key :=
  rfl

@[simp] theorem Suite.key_upsert (suite : Suite) (test : Test) :
    (suite.upsert test).key = suite.key :=
  rfl

section Change

variable {name filePath : String} {change : Suite → Suite} {suites : List Suite}

/-- Changing a suite keeps all keys in their places; a key that is new comes last. -/
theorem map_key_changeSuite (hchange : ∀ s : Suite, (change s).key = s.key) :
    (changeSuite name filePath change suites).map Suite.key =
      if (name, filePath) ∈ suites.map Suite.key then suites.map Suite.key
      else suites.map Suite.key ++ [(name, filePath)] := by
  induction suites with
  | nil =>
    rw [changeSuite, List.map_singleton, hchange]
    rfl
  | cons s rest ih =>
    unfold changeSuite
    by_cases hat : s.isAt name filePath = true
    · have hkey : s.key = (name, filePath) := Suite.isAt_iff.1 hat
      simp [hat, hchange, hkey]
    · have hkey : (name, filePath) ≠ s.key := fun e => hat (Suite.isAt_iff.2 e.symm)
      rw [if_neg hat, List.map_cons, ih, List.map_cons]
      by_cases hmem : (name, filePath) ∈ rest.map Suite.key
      · rw [if_pos hmem, if_pos (List.mem_cons_of_mem _ hmem)]
      · rw [if_neg hmem, if_neg fun h => (List.mem_cons.1 h).elim hkey hmem, List.cons_append]

theorem nodup_key_changeSuite (hchange : ∀ s : Suite, (change s).key = s.key)
    (h : (suites.map Suite.key).Nodup) :
    ((changeSuite name filePath change suites).map Suite.key).Nodup := by
  rw [map_key_changeSuite hchange]
  by_cases hmem : (name, filePath) ∈ suites.map Suite.key
  · rwa [if_pos hmem]
  · rw [if_neg hmem]
    refine List.nodup_append.2 ⟨h, by simp, ?_⟩
    rintro a ha b hb rfl
    exact hmem (List.mem_singleton.1 hb ▸ ha)

/-- What holds of all suites, and of the outcome of a change of the suite with the key, holds after
the change. The suite that is changed is a new one or has the property. -/
theorem forall_mem_changeSuite {P : Suite → Prop}
    (hnew : P (change { name := name, filePath := filePath }))
    (hstep : ∀ s, P s → s.key = (name, filePath) → P (change s)) (h : ∀ s ∈ suites, P s) :
    ∀ s ∈ changeSuite name filePath change suites, P s := by
  induction suites with
  | nil => simpa [changeSuite] using hnew
  | cons s rest ih =>
    obtain ⟨hs, hrest⟩ := List.forall_mem_cons.1 h
    unfold changeSuite
    by_cases hat : s.isAt name filePath = true
    · rw [if_pos hat]
      exact List.forall_mem_cons.2 ⟨hstep s hs (Suite.isAt_iff.1 hat), hrest⟩
    · rw [if_neg hat]
      exact List.forall_mem_cons.2 ⟨hs, ih hrest⟩

/-- Under the key that is changed stands the changed suite, or a new one that was changed. -/
theorem find?_changeSuite_self (hchange : ∀ s : Suite, (change s).key = s.key) :
    (changeSuite name filePath change suites).find? (·.isAt name filePath) =
      some (change ((suites.find? (·.isAt name filePath)).getD
        { name := name, filePath := filePath })) := by
  induction suites with
  | nil =>
    have hat : (change { name := name, filePath := filePath }).isAt name filePath = true :=
      Suite.isAt_iff.2 (hchange _)
    simp [changeSuite, hat]
  | cons s rest ih =>
    unfold changeSuite
    by_cases hat : s.isAt name filePath = true
    · have hat' : (change s).isAt name filePath = true :=
        Suite.isAt_iff.2 ((hchange s).trans (Suite.isAt_iff.1 hat))
      rw [if_pos hat, Suite.find?_cons_of_isAt hat', Suite.find?_cons_of_isAt hat, Option.getD_some]
    · rw [if_neg hat, Suite.find?_cons_of_not_isAt hat, ih, Suite.find?_cons_of_not_isAt hat]

/-- Under every other key stands what stood there before. -/
theorem find?_changeSuite_of_ne (hchange : ∀ s : Suite, (change s).key = s.key)
    {name' filePath' : String} (hne : (name', filePath') ≠ (name, filePath)) :
    (changeSuite name filePath change suites).find? (·.isAt name' filePath') =
      suites.find? (·.isAt name' filePath') := by
  have hother : ∀ s : Suite, s.key = (name, filePath) → ¬ s.isAt name' filePath' = true :=
    fun s hkey hat => hne ((Suite.isAt_iff.1 hat).symm.trans hkey)
  induction suites with
  | nil =>
    have hnew := hother (change { name := name, filePath := filePath }) (hchange _)
    rw [changeSuite, Suite.find?_cons_of_not_isAt hnew]
  | cons s rest ih =>
    unfold changeSuite
    by_cases hat : s.isAt name filePath = true
    · have hkey : s.key = (name, filePath) := Suite.isAt_iff.1 hat
      rw [if_pos hat, Suite.find?_cons_of_not_isAt (hother (change s) ((hchange s).trans hkey)),
        Suite.find?_cons_of_not_isAt (hother s hkey)]
    · rw [if_neg hat, List.find?_cons, List.find?_cons, ih]

end Change

/-! ## Looking tests up -/

/-- The tests of the suite with a key; none if there is no such suite. -/
def Suites.testsAt (suites : List Suite) (name filePath : String) : List Test :=
  ((suites.find? (·.isAt name filePath)).map (·.tests)).getD []

/-- The tests of the suite with a key are those of the suite that a change meets there. -/
theorem Suites.testsAt_eq_tests (suites : List Suite) (name filePath : String) :
    Suites.testsAt suites name filePath =
      ((suites.find? (·.isAt name filePath)).getD
        { name := name, filePath := filePath }).tests := by
  unfold Suites.testsAt
  cases suites.find? (·.isAt name filePath) <;> rfl

theorem Suites.find?_eq_find?_testsAt (suites : List Suite) (name filePath id : String) :
    Suites.find? suites name filePath id =
      (Suites.testsAt suites name filePath).find? (·.id = id) := by
  unfold Suites.find? Suites.testsAt
  cases suites.find? (·.isAt name filePath) with
  | none => rfl
  | some s => rfl

@[simp] theorem Suites.testsAt_upsert_self (suites : List Suite) (name filePath : String)
    (test : Test) :
    Suites.testsAt (Suites.upsert suites name filePath test) name filePath =
      replaceTest test (Suites.testsAt suites name filePath) := by
  unfold Suites.testsAt Suites.upsert
  rw [find?_changeSuite_self fun s => s.key_upsert test]
  cases suites.find? (·.isAt name filePath) with
  | none => rfl
  | some s => rfl

theorem Suites.testsAt_upsert_of_ne (suites : List Suite) {name filePath name' filePath' : String}
    (test : Test) (hne : (name', filePath') ≠ (name, filePath)) :
    Suites.testsAt (Suites.upsert suites name filePath test) name' filePath' =
      Suites.testsAt suites name' filePath' := by
  unfold Suites.testsAt Suites.upsert
  rw [find?_changeSuite_of_ne (fun s => s.key_upsert test) hne]

/-- Tests of a class that all stand in one suite can be counted there alone. -/
theorem Suites.filter_allTests_eq {suites : List Suite} {p : Test → Bool} (name filePath : String)
    (hnodup : (suites.map Suite.key).Nodup)
    (hp : ∀ s ∈ suites, s.key ≠ (name, filePath) → ∀ t ∈ s.tests, p t = false) :
    (allTests suites).filter p = (Suites.testsAt suites name filePath).filter p := by
  have hnone : ∀ l : List Suite, (∀ s ∈ l, ∀ t ∈ s.tests, p t = false) →
      (allTests l).filter p = [] := by
    intro l hl
    refine List.filter_eq_nil_iff.2 fun t ht => ?_
    obtain ⟨s, hs, ht⟩ := List.mem_flatMap.1 ht
    simp [hl s hs t ht]
  induction suites with
  | nil => rfl
  | cons s rest ih =>
    obtain ⟨hs, hrest⟩ := List.forall_mem_cons.1 hp
    obtain ⟨hnew, hnodup⟩ := List.nodup_cons.1 hnodup
    have hcons : allTests (s :: rest) = s.tests ++ allTests rest := List.flatMap_cons
    rw [hcons, List.filter_append]
    by_cases hat : s.isAt name filePath = true
    · -- The key is taken by this suite, so no later one can hold a test of the class.
      have hkey : s.key = (name, filePath) := Suite.isAt_iff.1 hat
      have hempty : (allTests rest).filter p = [] := by
        refine hnone rest fun s' hs' => hrest s' hs' fun hkey' => hnew ?_
        exact hkey.trans hkey'.symm ▸ List.mem_map_of_mem hs'
      rw [hempty, List.append_nil, Suites.testsAt, Suite.find?_cons_of_isAt hat]
      rfl
    · have hkey : s.key ≠ (name, filePath) := fun hkey => hat (Suite.isAt_iff.2 hkey)
      have hempty : s.tests.filter p = [] :=
        List.filter_eq_nil_iff.2 fun t ht => by simp [hs hkey t ht]
      rw [hempty, List.nil_append, ih hnodup hrest, Suites.testsAt, Suites.testsAt,
        Suite.find?_cons_of_not_isAt hat]

/-! ## Tests of one suite -/

theorem mem_replaceTest {test t : Test} {tests : List Test} (h : t ∈ replaceTest test tests) :
    t = test ∨ t ∈ tests := by
  induction tests with
  | nil => exact Or.inl (List.mem_singleton.1 h)
  | cons u rest ih =>
    unfold replaceTest at h
    by_cases hid : u.id = test.id
    · rw [if_pos hid] at h
      exact (List.mem_cons.1 h).imp_right (List.mem_cons_of_mem _)
    · rw [if_neg hid] at h
      rcases List.mem_cons.1 h with rfl | h
      · exact Or.inr List.mem_cons_self
      · exact (ih h).imp_right (List.mem_cons_of_mem _)

theorem replaceTest_ne_nil (test : Test) (tests : List Test) : replaceTest test tests ≠ [] := by
  cases tests with
  | nil => exact List.cons_ne_nil _ _
  | cons u rest =>
    unfold replaceTest
    split <;> exact List.cons_ne_nil _ _

/-- Of the tests with the id that is replaced, the first gives way to the new one. -/
theorem filter_replaceTest_self (test : Test) (tests : List Test) :
    (replaceTest test tests).filter (·.id = test.id) =
      test :: (tests.filter (·.id = test.id)).tail := by
  induction tests with
  | nil => simp [replaceTest]
  | cons u rest ih =>
    unfold replaceTest
    by_cases hid : u.id = test.id
    · simp [hid]
    · simpa [hid] using ih

/-- The tests with another id stay as they are. -/
theorem filter_replaceTest_of_ne {test : Test} {id : String} (hne : id ≠ test.id)
    (tests : List Test) :
    (replaceTest test tests).filter (·.id = id) = tests.filter (·.id = id) := by
  induction tests with
  | nil => simp [replaceTest, hne.symm]
  | cons u rest ih =>
    unfold replaceTest
    by_cases hid : u.id = test.id
    · simp [hid, hne.symm]
    · rw [if_neg hid, List.filter_cons, List.filter_cons, ih]

/-- A test with a new id comes last. -/
theorem replaceTest_of_forall_ne {test : Test} {tests : List Test}
    (h : ∀ t ∈ tests, t.id ≠ test.id) : replaceTest test tests = tests ++ [test] := by
  induction tests with
  | nil => rfl
  | cons u rest ih =>
    obtain ⟨hu, hrest⟩ := List.forall_mem_cons.1 h
    rw [replaceTest, if_neg hu, ih hrest, List.cons_append]

/-! ## Properties of all tests -/

/-- A change that adds a test to the suite with a key adds it to all tests. -/
theorem allTests_changeSuite_perm {name filePath : String} {change : Suite → Suite}
    {suites : List Suite} {test : Test}
    (h : (change ((suites.find? (·.isAt name filePath)).getD
        { name := name, filePath := filePath })).tests =
      Suites.testsAt suites name filePath ++ [test]) :
    (allTests (changeSuite name filePath change suites)).Perm (test :: allTests suites) := by
  have hcons : ∀ (s : Suite) rest, allTests (s :: rest) = s.tests ++ allTests rest :=
    fun _ _ => List.flatMap_cons
  induction suites with
  | nil =>
    have hnew : (change { name := name, filePath := filePath }).tests = [test] := h
    rw [changeSuite, hcons, hnew]
    exact List.Perm.refl _
  | cons s rest ih =>
    unfold changeSuite
    by_cases hat : s.isAt name filePath = true
    · rw [Suites.testsAt, Suite.find?_cons_of_isAt hat] at h
      have hself : (change s).tests = s.tests ++ [test] := h
      rw [if_pos hat, hcons, hcons, hself, List.append_assoc]
      exact List.perm_middle
    · rw [Suites.testsAt, Suite.find?_cons_of_not_isAt hat] at h
      rw [if_neg hat, hcons, hcons]
      exact ((ih h).append_left s.tests).trans List.perm_middle

/-- What all tests have and a test has that is appended, all tests have afterwards. -/
theorem Suites.forall_mem_push {P : Test → Prop} {suites : List Suite} {test : Test}
    (h : ∀ t ∈ allTests suites, P t) (htest : P test) (name filePath : String) :
    ∀ t ∈ allTests (Suites.push suites name filePath test), P t := by
  unfold allTests at h ⊢
  rw [List.forall_mem_flatMap] at h ⊢
  refine forall_mem_changeSuite ?_ ?_ h
  · intro t ht
    exact List.mem_singleton.1 ht ▸ htest
  · intro s hs _ t ht
    rcases List.mem_append.1 ht with ht | ht
    · exact hs t ht
    · exact List.mem_singleton.1 ht ▸ htest

/-- The same of a test that takes the place of another one. -/
theorem Suites.forall_mem_upsert {P : Test → Prop} {suites : List Suite} {test : Test}
    (h : ∀ t ∈ allTests suites, P t) (htest : P test) (name filePath : String) :
    ∀ t ∈ allTests (Suites.upsert suites name filePath test), P t := by
  unfold allTests at h ⊢
  rw [List.forall_mem_flatMap] at h ⊢
  refine forall_mem_changeSuite ?_ ?_ h
  · intro t ht
    exact List.mem_singleton.1 ht ▸ htest
  · intro s hs _ t ht
    rcases mem_replaceTest ht with rfl | ht
    · exact htest
    · exact hs t ht

/-! ## Rolled-up suites -/

/-- The milliseconds of all tests of a list together, without a limit. -/
def totalMillis (tests : List Test) : Nat :=
  (tests.map fun t => t.duration.toNat).sum

/-- Duration and outcome of a suite are those of its tests. -/
structure Suite.RolledUp (suite : Suite) : Prop where
  duration_eq : suite.duration.toNat = min (totalMillis suite.tests) maxWord
  status_iff : suite.status = .failed ↔ ∃ t ∈ suite.tests, t.status.isFailure = true

/-- A suite as it stands after each step: it has tests, and is rolled up. -/
structure Suite.Settled (suite : Suite) : Prop extends suite.RolledUp where
  nonempty : suite.tests ≠ []

theorem Suite.rolledUp_new (name filePath : String) :
    ({ name := name, filePath := filePath : Suite }).RolledUp where
  duration_eq := by simp [totalMillis]
  status_iff := by simp

theorem Suite.rolledUp_recount (suite : Suite) : suite.recount.RolledUp where
  duration_eq := by
    simp only [Suite.recount, toNat_sumSat, totalMillis, List.map_map, Function.comp_def]
  status_iff := by
    have hex : (∃ o ∈ suite.tests.map (·.status), o.isFailure = true) ↔
        ∃ t ∈ suite.tests, t.status.isFailure = true := by
      rw [← List.any_eq_true, List.any_map, List.any_eq_true]
      rfl
    rw [Suite.recount, SuiteStatus.foldl_absorb_eq_failed, hex]
    simp

/-- Adding a test up keeps what counting again would give, also when the sum has reached its
limit. -/
theorem Suite.RolledUp.push {suite : Suite} (h : suite.RolledUp) (test : Test) :
    (suite.push test).RolledUp where
  duration_eq := by
    have hsum : totalMillis (suite.tests ++ [test]) =
        totalMillis suite.tests + test.duration.toNat := by
      simp [totalMillis]
    rw [Suite.push, toNat_addSat, h.duration_eq, hsum]
    omega
  status_iff := by
    cases ht : test.status.isFailure with
    | false => simpa [Suite.push, SuiteStatus.absorb, ht] using h.status_iff
    | true => simp [Suite.push, SuiteStatus.absorb, ht]

theorem Suite.RolledUp.settled_push {suite : Suite} (h : suite.RolledUp) (test : Test) :
    (suite.push test).Settled where
  toRolledUp := h.push test
  nonempty := by simp [Suite.push]

theorem Suite.settled_upsert (suite : Suite) (test : Test) : (suite.upsert test).Settled where
  toRolledUp := Suite.rolledUp_recount _
  nonempty := replaceTest_ne_nil test suite.tests

namespace Suites

variable {suites : List Suite}

/-- A step leaves all suites settled, the one that it changes and those that it does not. -/
theorem settled_push (h : ∀ s ∈ suites, s.Settled) (name filePath : String) (test : Test) :
    ∀ s ∈ push suites name filePath test, s.Settled :=
  forall_mem_changeSuite ((Suite.rolledUp_new name filePath).settled_push test)
    (fun _ hs _ => hs.toRolledUp.settled_push test) h

theorem settled_upsert (h : ∀ s ∈ suites, s.Settled) (name filePath : String) (test : Test) :
    ∀ s ∈ upsert suites name filePath test, s.Settled :=
  forall_mem_changeSuite (Suite.settled_upsert _ test) (fun s _ _ => s.settled_upsert test) h

end Suites

end TestReport
