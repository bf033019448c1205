import TestReport.Proofs.Growth
import TestReport.Proofs.SuiteStore

/-!
# Putting tests into a keyed store

In a store a test is known by three texts, the name and the file of its suite and its own id.
`SuiteStore.upsert` writes under such a key and `SuiteStore.find?` reads, and they obey the laws of
a keyed store in every state that any steps lead to: what is written is read back, and nothing else
is read differently. This also holds where tests that were appended share an id, since reading and
writing both take the first of them.

What a write does to the store as a whole is a relation between the suites before and after,
`Suites.TakesIn`. It has one case for each place where the test can go, and in each it names all
that is changed. So nothing else changes or moves, and the number of tests can be read off
(`Suites.TakesIn.length_allTests`).
-/

namespace TestReport

/-! ## Reading what was written -/

namespace Suites

variable {suites : List Suite} {name filePath : String} {test : Test}

theorem find?_upsert_self (suites : List Suite) (name filePath : String) (test : Test) :
    find? (upsert suites name filePath test) name filePath test.id = some test := by
  rw [find?_eq_find?_testsAt, testsAt_upsert_self, ← List.head?_filter, filter_replaceTest_self]
  rfl

theorem find?_upsert_of_ne {name' filePath' id : String}
    (hne : (name', filePath', id) ≠ (name, filePath, test.id)) :
    find? (upsert suites name filePath test) name' filePath' id =
      find? suites name' filePath' id := by
  rw [find?_eq_find?_testsAt, find?_eq_find?_testsAt]
  by_cases hkey : (name', filePath') = (name, filePath)
  · obtain ⟨rfl, rfl⟩ := Prod.mk.inj hkey
    have hid : id ≠ test.id := fun hid => hne (by rw [hid])
    rw [testsAt_upsert_self, ← List.head?_filter, filter_replaceTest_of_ne hid, List.head?_filter]
  · rw [testsAt_upsert_of_ne suites test hkey]

end Suites

/-! ## What a write changes -/

/-- A list of tests before and after a test took its place in it: the first test of its id gave way
to it, or it came last because there was none. -/
inductive TakesPlace (test : Test) : (before after : List Test) → Prop
  | replacing {front back : List Test} {old : Test} (hfront : ∀ t ∈ front, t.id ≠ test.id)
      (hold : old.id = test.id) : TakesPlace test (front ++ old :: back) (front ++ test :: back)
  | last {tests : List Test} (hnew : ∀ t ∈ tests, t.id ≠ test.id) :
      TakesPlace test tests (tests ++ [test])

/-- Suites before and after a test took its place in the suite of a key: it did so in the one suite
of the key, which kept its key, or in a new suite that came last. -/
inductive Suites.TakesIn (key : String × String) (test : Test) : (before after : List Suite) → Prop
  | known {front back : List Suite} {old new : Suite} (hother : ∀ s ∈ front ++ back, s.key ≠ key)
      (hold : old.key = key) (hnew : new.key = key) (htests : TakesPlace test old.tests new.tests) :
      TakesIn key test (front ++ old :: back) (front ++ new :: back)
  | created {suites : List Suite} {new : Suite} (hother : ∀ s ∈ suites, s.key ≠ key)
      (hnew : new.key = key) (htests : new.tests = [test]) :
      TakesIn key test suites (suites ++ [new])

/-- The same after a test, or a suite, that is not concerned. -/
theorem TakesPlace.cons {test t : Test} {before after : List Test} (hne : t.id ≠ test.id)
    (h : TakesPlace test before after) : TakesPlace test (t :: before) (t :: after) := by
  cases h with
  | @replacing front back old hfront hold =>
    exact @replacing _ (t :: front) back old (List.forall_mem_cons.2 ⟨hne, hfront⟩) hold
  | last hnew => exact .last (List.forall_mem_cons.2 ⟨hne, hnew⟩)

theorem Suites.TakesIn.cons {key : String × String} {test : Test} {s : Suite}
    {before after : List Suite} (hne : s.key ≠ key) (h : TakesIn key test before after) :
    TakesIn key test (s :: before) (s :: after) := by
  cases h with
  | @known front back old new hother hold hnew htests =>
    exact @known _ _ (s :: front) back old new (List.forall_mem_cons.2 ⟨hne, hother⟩) hold hnew
      htests
  | created hother hnew htests => exact .created (List.forall_mem_cons.2 ⟨hne, hother⟩) hnew htests

theorem takesPlace_replaceTest (test : Test) (tests : List Test) :
    TakesPlace test tests (replaceTest test tests) := by
  induction tests with
  | nil => exact .last (by simp)
  | cons t rest ih =>
    unfold replaceTest
    by_cases hid : t.id = test.id
    · rw [if_pos hid]
      exact @TakesPlace.replacing _ [] rest t (List.forall_mem_nil _) hid
    · rw [if_neg hid]
      exact ih.cons hid

theorem Suites.takesIn_upsert {suites : List Suite} (hnodup : (suites.map Suite.key).Nodup)
    (name filePath : String) (test : Test) :
    TakesIn (name, filePath) test suites (upsert suites name filePath test) := by
  unfold upsert
  induction suites with
  | nil => exact .created (by simp) rfl rfl
  | cons s rest ih =>
    obtain ⟨hnew, hnodup⟩ := List.nodup_cons.1 hnodup
    unfold changeSuite
    by_cases hat : s.isAt name filePath = true
    · have hkey : s.key = (name, filePath) := Suite.isAt_iff.1 hat
      have hother : ∀ s' ∈ rest, s'.key ≠ (name, filePath) := fun s' hs' hkey' =>
        hnew (hkey.trans hkey'.symm ▸ List.mem_map_of_mem hs')
      rw [if_pos hat]
      exact @TakesIn.known _ _ [] rest s (s.upsert test) hother hkey hkey
        (takesPlace_replaceTest test s.tests)
    · rw [if_neg hat]
      exact (ih hnodup).cons fun hkey => hat (Suite.isAt_iff.2 hkey)

/-! ### The number of tests -/

theorem TakesPlace.length_eq {test : Test} {before after : List Test}
    (h : TakesPlace test before after) :
    after.length = before.length + if before.find? (·.id = test.id) = none then 1 else 0 := by
  cases h with
  | @replacing front back old hfront hold =>
    have hfound : (front ++ old :: back).find? (·.id = test.id) ≠ none := fun hnone => by
      simpa [hold] using List.find?_eq_none.1 hnone old (by simp)
    rw [if_neg hfound]
    simp
  | last hnew =>
    have hnone : before.find? (·.id = test.id) = none :=
      List.find?_eq_none.2 fun t ht => by simpa using hnew t ht
    simp [hnone]

theorem Suites.TakesIn.length_allTests {name filePath : String} {test : Test}
    {before after : List Suite} (h : TakesIn (name, filePath) test before after) :
    (allTests after).length = (allTests before).length +
      if find? before name filePath test.id = none then 1 else 0 := by
  cases h with
  | @known front back old new hother hold hnew htests =>
    have hfront : front.find? (·.isAt name filePath) = none := List.find?_eq_none.2 fun s hs hat =>
      hother s (List.mem_append_left back hs) (Suite.isAt_iff.1 hat)
    have hfind : find? (front ++ old :: back) name filePath test.id =
        old.tests.find? (·.id = test.id) := by
      rw [find?, List.find?_append, hfront, Suite.find?_cons_of_isAt (Suite.isAt_iff.2 hold)]
      rfl
    rw [hfind]
    simp only [allTests, List.flatMap_append, List.flatMap_cons, List.length_append,
      htests.length_eq]
    omega
  | @created _ new hother hnew htests =>
    have hnone : before.find? (·.isAt name filePath) = none := List.find?_eq_none.2 fun s hs hat =>
      hother s hs (Suite.isAt_iff.1 hat)
    rw [find?, hnone]
    simp [allTests, List.flatMap_append, htests]

/-! ## Writing twice -/

theorem replaceTest_replaceTest (test : Test) (tests : List Test) :
    replaceTest test (replaceTest test tests) = replaceTest test tests := by
  induction tests with
  | nil => simp [replaceTest]
  | cons t rest ih =>
    rw [replaceTest]
    by_cases hid : t.id = test.id
    · rw [if_pos hid, replaceTest, if_pos rfl]
    · rw [if_neg hid, replaceTest, if_neg hid, ih]

theorem Suite.upsert_upsert (suite : Suite) (test : Test) :
    (suite.upsert test).upsert test = suite.upsert test := by
  show { suite with tests := replaceTest test (replaceTest test suite.tests) }.recount = _
  rw [replaceTest_replaceTest]
  rfl

theorem changeSuite_changeSuite {name filePath : String} {change : Suite → Suite}
    (hchange : ∀ s : Suite, (change s).key = s.key) (htwice : ∀ s, change (change s) = change s)
    (suites : List Suite) :
    changeSuite name filePath change (changeSuite name filePath change suites) =
      changeSuite name filePath change suites := by
  have hagain : ∀ (s : Suite) (rest : List Suite), s.key = (name, filePath) →
      changeSuite name filePath change (change s :: rest) = change s :: rest := by
    intro s rest hkey
    rw [changeSuite, if_pos (Suite.isAt_iff.2 ((hchange s).trans hkey)), htwice]
  induction suites with
  | nil => exact hagain _ [] rfl
  | cons s rest ih =>
    rw [changeSuite]
    by_cases hat : s.isAt name filePath = true
    · rw [if_pos hat]
      exact hagain s rest (Suite.isAt_iff.1 hat)
    · rw [if_neg hat, changeSuite, if_neg hat, ih]

theorem Suites.upsert_upsert (suites : List Suite) (name filePath : String) (test : Test) :
    upsert (upsert suites name filePath test) name filePath test =
      upsert suites name filePath test :=
  changeSuite_changeSuite (fun s => s.key_upsert test) (fun s => s.upsert_upsert test) suites

/-! ## Different ids -/

theorem nodup_id_replaceTest {tests : List Test} (h : (tests.map (·.id)).Nodup) (test : Test) :
    ((replaceTest test tests).map (·.id)).Nodup := by
  rw [map_id_replaceTest]
  split
  · exact h
  · next hnew =>
    rw [← List.concat_eq_append]
    exact List.Nodup.concat hnew h

theorem Suites.nodup_id_upsert {suites : List Suite}
    (h : ∀ s ∈ suites, (s.tests.map (·.id)).Nodup) (name filePath : String) (test : Test) :
    ∀ s ∈ upsert suites name filePath test, (s.tests.map (·.id)).Nodup :=
  forall_mem_changeSuite (List.nodup_singleton test.id)
    (fun _ hs _ => nodup_id_replaceTest hs test) h

theorem Suites.nodup_id_run {steps : List SuiteStep}
    (h : ∀ step ∈ steps, ∃ name filePath test, step = .upsert name filePath test) :
    ∀ s ∈ run steps, (s.tests.map (·.id)).Nodup := by
  refine List.foldlRecOn (motive := fun suites : List Suite =>
    ∀ s ∈ suites, (s.tests.map (·.id)).Nodup) steps apply (List.forall_mem_nil _) ?_
  intro suites hsuites step hstep
  obtain ⟨name, filePath, test, rfl⟩ := h step hstep
  exact nodup_id_upsert hsuites name filePath test

/-! ## Laws of the store -/

namespace SuiteStore

variable {store : SuiteStore}

/-- With an index that agrees, looking up by position is looking up by key. -/
theorem Indexed.find?_eq (h : store.Indexed) (name filePath id : String) :
    store.find? name filePath id = Suites.find? store.suites name filePath id := by
  rw [find?, Suites.find?, h name filePath, List.find?_eq_bind_findIdx?_getElem?, Option.bind_assoc]
  rfl

/-- A second write finds the suite by an index that it does not change. -/
theorem Indexed.upsert_upsert (h : store.Indexed) (name filePath : String) (test : Test) :
    (store.upsert name filePath test).upsert name filePath test =
      store.upsert name filePath test := by
  have hafter : (store.upsert name filePath test).Indexed := h.upsert test
  have hsuites : ((store.upsert name filePath test).upsert name filePath test).suites =
      (store.upsert name filePath test).suites := by
    rw [hafter.suites_upsert, h.suites_upsert, Suites.upsert_upsert]
  have hknown : ∃ i, (store.upsert name filePath test).index[(name, filePath)]? = some i := by
    rw [hafter name filePath, h.suites_upsert, Suites.upsert,
      Suites.index?_changeSuite fun s => s.key_upsert test, if_pos rfl]
    cases Suites.index? store.suites name filePath <;> exact ⟨_, rfl⟩
  obtain ⟨i, hi⟩ := hknown
  have hindex : ((store.upsert name filePath test).upsert name filePath test).index =
      (store.upsert name filePath test).index := by
    rw [SuiteStore.upsert, hi]
    rfl
  cases hstore : (store.upsert name filePath test).upsert name filePath test
  rw [hstore] at hsuites hindex
  cases hsuites
  cases hindex
  rfl

/-- In every state of a store a test that is put in place is found under its key, nothing is found
differently under any other key, and it takes its place in the suite of the key, where it is one
test more exactly if none was found there before. Putting it in place again changes nothing. In a
store into which tests are only ever put in place, the ids of a suite are different. The operations
without an index do the same. -/
theorem upsert_laws (steps : List SuiteStep) (name filePath : String) (test : Test) :
    let before := run steps
    let after := before.upsert name filePath test
    after.find? name filePath test.id = some test ∧
      (∀ name' filePath' id, (name', filePath', id) ≠ (name, filePath, test.id) →
        after.find? name' filePath' id = before.find? name' filePath' id) ∧
      Suites.TakesIn (name, filePath) test before.suites after.suites ∧
      (allTests after.suites).length = (allTests before.suites).length +
        (if before.find? name filePath test.id = none then 1 else 0) ∧
      after.upsert name filePath test = after ∧
      ((∀ step ∈ steps, ∃ name filePath test, step = .upsert name filePath test) →
        ∀ s ∈ before.suites, (s.tests.map (·.id)).Nodup) ∧
      after.suites = Suites.upsert (Suites.run steps) name filePath test ∧
      ∀ name' filePath' id,
        before.find? name' filePath' id = Suites.find? (Suites.run steps) name' filePath' id := by
  intro before after
  have hbefore : before.Indexed := indexed_run steps
  have hafter : after.Indexed := hbefore.upsert test
  have hsuites : after.suites = Suites.upsert before.suites name filePath test :=
    hbefore.suites_upsert test
  have hrun : before.suites = Suites.run steps := suites_run steps
  have htakes : Suites.TakesIn (name, filePath) test before.suites after.suites := by
    rw [hsuites, hrun]
    exact Suites.takesIn_upsert (Suites.nodup_key_run steps) name filePath test
  refine ⟨?_, ?_, htakes, ?_, hbefore.upsert_upsert name filePath test, ?_, ?_, ?_⟩
  · rw [hafter.find?_eq, hsuites, Suites.find?_upsert_self]
  · intro name' filePath' id hne
    rw [hafter.find?_eq, hbefore.find?_eq, hsuites, Suites.find?_upsert_of_ne hne]
  · rw [htakes.length_allTests, hbefore.find?_eq]
  · rw [hrun]
    exact Suites.nodup_id_run
  · rw [hsuites, hrun]
  · intro name' filePath' id
    rw [hbefore.find?_eq, hrun]

/-- Two suites with a test of the same id, one of which is run again. -/
def namesakeSteps : List SuiteStep :=
  [.upsert "S" "s.js" { id := "t", status := .failed }, .upsert "R" "r.js" { id := "t" },
    .upsert "S" "s.js" { id := "t", status := .timedOut }]

/-- The namesake in the other suite is found as it was, and there are still two tests. -/
theorem upsert_laws_namesakeSteps :
    (∀ step ∈ namesakeSteps, ∃ name filePath test, step = .upsert name filePath test) ∧
      ("R", "r.js", "t") ≠ ("S", "s.js", "t") ∧
      ((run namesakeSteps).upsert "S" "s.js" { id := "t" }).find? "R" "r.js" "t" =
        some { id := "t" } ∧
      (allTests ((run namesakeSteps).upsert "S" "s.js" { id := "t" }).suites).length = 2 ∧
      ∀ s ∈ (run namesakeSteps).suites, (s.tests.map (·.id)).Nodup := by
  have hsteps : ∀ step ∈ namesakeSteps, ∃ name filePath test,
      step = .upsert name filePath test := by
    simp [namesakeSteps]
  have hne : ("R", "r.js", "t") ≠ ("S", "s.js", "t") := by decide
  obtain ⟨-, hother, -, -, -, hnodup, hsuites, hfind⟩ :=
    upsert_laws namesakeSteps "S" "s.js" { id := "t" }
  refine ⟨hsteps, hne, ?_, ?_, hnodup hsteps⟩
  · rw [hother "R" "r.js" "t" hne, hfind]
    decide
  · rw [hsuites]
    decide

end SuiteStore

/-- Of two tests that share an id in one suite, the second is left alone. -/
example :
    (Suites.run [.push "S" "s.js" { id := "t", name := "a" }, .push "S" "s.js" { id := "t" },
      .upsert "S" "s.js" { id := "t", name := "b" }]).map (·.tests.map (·.name)) = [["b", ""]] := by
  decide

end TestReport
