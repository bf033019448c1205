import TestReport.SuiteStore
import TestReport.Proofs.Suites

/-!
# The index of a store

A store keeps each suite twice, as it were: the suite itself, at its position in the list, and the
position in the index. `SuiteStore.Indexed` says that the two agree, so that looking a key up in the
index is looking for it in the list. With an index that agrees, changing the suite at the position
found is changing the suite of the key (`changeSuite_eq_modify`), and what is created comes to stand
where the index says (`index?_changeSuite`). So each step fills the list as the same step without an
index does, and the index still agrees afterwards.

The other half of the invariant does not mention the index. Duration and outcome of a suite are
what counting its tests again would give (`Suite.RolledUp.recount_eq`), whichever way each test came
in. `SuiteStore.consistent_run` puts the two halves together for every sequence of steps.
-/

namespace TestReport

/-! ## Positions -/

section Positions

variable {suites : List Suite} {name filePath : String} {change : Suite → Suite} {i : Nat}

/-- A position depends on the keys alone. -/
theorem Suites.index?_eq_findIdx?_key (suites : List Suite) (name filePath : String) :
    Suites.index? suites name filePath =
      (suites.map Suite.key).findIdx? fun key => decide (key = (name, filePath)) := by
  rw [Suites.index?, List.findIdx?_map]
  congr 1
  funext s
  rw [Bool.eq_iff_iff, Suite.isAt_iff]
  exact decide_eq_true_iff.symm

theorem Suites.index?_eq_none_iff :
    Suites.index? suites name filePath = none ↔ (name, filePath) ∉ suites.map Suite.key := by
  rw [Suites.index?_eq_findIdx?_key, List.findIdx?_eq_none_iff]
  constructor
  · intro h hmem
    simpa using h _ hmem
  · intro h key hkey
    refine decide_eq_false ?_
    rintro rfl
    exact h hkey

/-- Where keys are different, the position of a key is the only one at which it stands. -/
theorem Suites.index?_eq_some_iff (hnodup : (suites.map Suite.key).Nodup) :
    Suites.index? suites name filePath = some i ↔
      ∃ s, suites[i]? = some s ∧ s.name = name ∧ s.filePath = filePath := by
  have hat : (∃ s, suites[i]? = some s ∧ s.name = name ∧ s.filePath = filePath) ↔
      (suites.map Suite.key)[i]? = some (name, filePath) := by
    simp only [List.getElem?_map, Option.map_eq_some_iff, Suite.key, Prod.mk.injEq]
  rw [hat, Suites.index?_eq_findIdx?_key, List.findIdx?_eq_some_iff_getElem,
    List.getElem?_eq_some_iff]
  constructor
  · rintro ⟨hi, hkey, -⟩
    exact ⟨hi, of_decide_eq_true hkey⟩
  · rintro ⟨hi, hkey⟩
    refine ⟨hi, decide_eq_true hkey, fun j hji hj => Nat.ne_of_lt hji ?_⟩
    exact hnodup.getElem_inj_iff.1 ((of_decide_eq_true hj).trans hkey.symm)

theorem changeSuite_eq_modify (h : Suites.index? suites name filePath = some i) :
    changeSuite name filePath change suites = suites.modify i change := by
  induction suites generalizing i with
  | nil => cases h
  | cons s rest ih =>
    rw [Suites.index?, List.findIdx?_cons] at h
    unfold changeSuite
    by_cases hat : s.isAt name filePath = true
    · obtain rfl : 0 = i := by simpa [hat] using h
      rw [if_pos hat, List.modify_zero_cons]
    · obtain ⟨j, hj, rfl⟩ : ∃ j, Suites.index? rest name filePath = some j ∧ j + 1 = i := by
        simpa [hat, Suites.index?] using h
      rw [if_neg hat, List.modify_succ_cons, ih hj]

theorem changeSuite_eq_append (h : Suites.index? suites name filePath = none) :
    changeSuite name filePath change suites =
      suites ++ [change { name := name, filePath := filePath }] := by
  induction suites with
  | nil => rfl
  | cons s rest ih =>
    rw [Suites.index?, List.findIdx?_eq_none_iff, List.forall_mem_cons] at h
    unfold changeSuite
    rw [if_neg (Bool.eq_false_iff.1 h.1), ih (List.findIdx?_eq_none_iff.2 h.2), List.cons_append]

/-- A change leaves all positions as they are; a key that is new gets the next one. -/
theorem Suites.index?_changeSuite (hchange : ∀ s : Suite, (change s).key = s.key)
    (name' filePath' : String) :
    Suites.index? (changeSuite name filePath change suites) name' filePath' =
      (Suites.index? suites name' filePath').or
        (if (name, filePath) = (name', filePath') then some suites.length else none) := by
  rw [Suites.index?_eq_findIdx?_key, map_key_changeSuite hchange]
  by_cases hmem : (name, filePath) ∈ suites.map Suite.key
  · rw [if_pos hmem, ← Suites.index?_eq_findIdx?_key]
    cases hindex : Suites.index? suites name' filePath' with
    | some i => rfl
    | none =>
      have hne : (name, filePath) ≠ (name', filePath') := fun heq =>
        Suites.index?_eq_none_iff.1 hindex (heq ▸ hmem)
      rw [if_neg hne]
      rfl
  · rw [if_neg hmem, List.findIdx?_append, ← Suites.index?_eq_findIdx?_key]
    congr 1
    by_cases heq : (name, filePath) = (name', filePath')
    · simp [heq]
    · simp [heq]

end Positions

/-! ## An index that agrees -/

namespace SuiteStore

/-- Whether the index of a store gives the positions of its suites. -/
def Indexed (store : SuiteStore) : Prop :=
  ∀ name filePath, store.index[(name, filePath)]? = Suites.index? store.suites name filePath

variable {store : SuiteStore} {name filePath : String} {change : Suite → Suite} {i : Nat}

theorem indexed_empty : ({} : SuiteStore).Indexed :=
  fun _ _ => Std.HashMap.getElem?_empty

namespace Indexed

theorem suites_changeAt (h : store.Indexed) (hi : store.index[(name, filePath)]? = some i) :
    (store.changeAt i change).suites = changeSuite name filePath change store.suites :=
  (changeSuite_eq_modify ((h name filePath).symm.trans hi)).symm

theorem changeAt (h : store.Indexed) (hi : store.index[(name, filePath)]? = some i)
    (hchange : ∀ s : Suite, (change s).key = s.key) : (store.changeAt i change).Indexed := by
  intro name' filePath'
  rw [h.suites_changeAt hi, Suites.index?_changeSuite hchange, ← h name' filePath']
  show store.index[(name', filePath')]? = _
  by_cases heq : (name, filePath) = (name', filePath')
  · rw [← heq, hi]
    rfl
  · rw [if_neg heq, Option.or_none]

theorem suites_create (h : store.Indexed) (hi : store.index[(name, filePath)]? = none) :
    ((store.create name filePath).changeAt store.suites.length change).suites =
      changeSuite name filePath change store.suites := by
  rw [changeSuite_eq_append ((h name filePath).symm.trans hi)]
  simp [SuiteStore.create, SuiteStore.changeAt, List.modify_eq_take_drop]

theorem create (h : store.Indexed) (hi : store.index[(name, filePath)]? = none)
    (hchange : ∀ s : Suite, (change s).key = s.key) :
    ((store.create name filePath).changeAt store.suites.length change).Indexed := by
  intro name' filePath'
  rw [h.suites_create hi, Suites.index?_changeSuite hchange, ← h name' filePath']
  show (store.index.insert (name, filePath) store.suites.length)[(name', filePath')]? = _
  rw [Std.HashMap.getElem?_insert]
  by_cases heq : (name, filePath) = (name', filePath')
  · rw [if_pos (beq_iff_eq.2 heq), if_pos heq, ← heq, hi]
    rfl
  · rw [if_neg (mt beq_iff_eq.1 heq), if_neg heq, Option.or_none]

/-! ### Steps -/

theorem suites_push (h : store.Indexed) (test : Test) :
    (store.push name filePath test).suites = Suites.push store.suites name filePath test := by
  unfold SuiteStore.push
  cases hi : store.index[(name, filePath)]? with
  | some i => exact h.suites_changeAt hi
  | none => exact h.suites_create hi

theorem push (h : store.Indexed) (test : Test) : (store.push name filePath test).Indexed := by
  unfold SuiteStore.push
  cases hi : store.index[(name, filePath)]? with
  | some i => exact h.changeAt hi fun s => s.key_push test
  | none => exact h.create hi fun s => s.key_push test

/-- A suite that is new is given its first test by appending it, which is what replacing does. -/
theorem suites_upsert (h : store.Indexed) (test : Test) :
    (store.upsert name filePath test).suites = Suites.upsert store.suites name filePath test := by
  unfold SuiteStore.upsert
  cases hi : store.index[(name, filePath)]? with
  | some i => exact h.suites_changeAt hi
  | none =>
    have hnew : Suites.index? store.suites name filePath = none := (h name filePath).symm.trans hi
    rw [h.suites_push, Suites.push, Suites.upsert, changeSuite_eq_append hnew,
      changeSuite_eq_append hnew, Suite.push_new]

theorem upsert (h : store.Indexed) (test : Test) : (store.upsert name filePath test).Indexed := by
  unfold SuiteStore.upsert
  cases hi : store.index[(name, filePath)]? with
  | some i => exact h.changeAt hi fun s => s.key_upsert test
  | none => exact h.push test

theorem suites_apply (h : store.Indexed) (step : SuiteStep) :
    (store.apply step).suites = Suites.apply store.suites step := by
  cases step with
  | push name filePath test => exact h.suites_push test
  | upsert name filePath test => exact h.suites_upsert test

theorem apply (h : store.Indexed) (step : SuiteStep) : (store.apply step).Indexed := by
  cases step with
  | push name filePath test => exact h.push test
  | upsert name filePath test => exact h.upsert test

end Indexed

/-- From an index that agrees on, a whole run fills the suites that the steps fill without one. -/
theorem Indexed.foldl (h : store.Indexed) (steps : List SuiteStep) :
    (steps.foldl SuiteStore.apply store).Indexed ∧
      (steps.foldl SuiteStore.apply store).suites = steps.foldl Suites.apply store.suites := by
  induction steps generalizing store with
  | nil => exact ⟨h, rfl⟩
  | cons step steps ih =>
    rw [List.foldl_cons, List.foldl_cons, ← h.suites_apply step]
    exact ih (h.apply step)

theorem indexed_run (steps : List SuiteStep) : (run steps).Indexed :=
  (indexed_empty.foldl steps).1

theorem suites_run (steps : List SuiteStep) : (run steps).suites = Suites.run steps :=
  (indexed_empty.foldl steps).2

end SuiteStore

/-! ## Derived fields -/

/-- Counting the tests of a suite again changes nothing where duration and outcome are theirs. -/
theorem Suite.RolledUp.recount_eq {suite : Suite} (h : suite.RolledUp) : suite.recount = suite := by
  have hrecount := suite.rolledUp_recount
  have hduration : suite.recount.duration = suite.duration :=
    UInt64.toNat_inj.1 (hrecount.duration_eq.trans h.duration_eq.symm)
  have hfailed : suite.recount.status = .failed ↔ suite.status = .failed :=
    hrecount.status_iff.trans h.status_iff.symm
  have hstatus : suite.recount.status = suite.status := by
    cases hs : suite.recount.status <;> cases hs' : suite.status <;> simp_all
  show { suite with duration := suite.recount.duration, status := suite.recount.status } = suite
  rw [hduration, hstatus]

/-- Adding up one test more and counting all again come to the same. -/
theorem Suite.RolledUp.push_eq_recount {suite : Suite} (h : suite.RolledUp) (test : Test) :
    suite.push test = { suite with tests := suite.tests ++ [test] }.recount :=
  (h.push test).recount_eq.symm

namespace Suites

theorem settled_apply {suites : List Suite} (h : ∀ s ∈ suites, s.Settled) (step : SuiteStep) :
    ∀ s ∈ apply suites step, s.Settled := by
  cases step with
  | push name filePath test => exact settled_push h name filePath test
  | upsert name filePath test => exact settled_upsert h name filePath test

theorem nodup_key_apply {suites : List Suite} (h : (suites.map Suite.key).Nodup)
    (step : SuiteStep) : ((apply suites step).map Suite.key).Nodup := by
  cases step with
  | push name filePath test => exact nodup_key_changeSuite (fun s => s.key_push test) h
  | upsert name filePath test => exact nodup_key_changeSuite (fun s => s.key_upsert test) h

theorem settled_run (steps : List SuiteStep) : ∀ s ∈ run steps, s.Settled :=
  List.foldlRecOn (motive := fun suites : List Suite => ∀ s ∈ suites, s.Settled) steps apply
    (by simp) fun _ h step _ => settled_apply h step

theorem nodup_key_run (steps : List SuiteStep) : ((run steps).map Suite.key).Nodup :=
  List.foldlRecOn (motive := fun suites : List Suite => (suites.map Suite.key).Nodup) steps apply
    List.Pairwise.nil fun _ h step _ => nodup_key_apply h step

end Suites

/-! ## The invariant -/

/-- What holds of a store between any two steps. -/
structure SuiteStore.Consistent (store : SuiteStore) : Prop where
  /-- The index has the name and the file of a suite under its position, and nothing else. -/
  index_iff : ∀ name filePath i, store.index[(name, filePath)]? = some i ↔
    ∃ s : Suite, store.suites[i]? = some s ∧ s.name = name ∧ s.filePath = filePath
  nodup_key : (store.suites.map fun s => (s.name, s.filePath)).Nodup
  nonempty : ∀ s ∈ store.suites, s.tests ≠ []
  status_iff : ∀ s ∈ store.suites,
    s.status = .failed ↔ ∃ t ∈ s.tests, t.status = .failed ∨ t.status = .timedOut
  duration_eq : ∀ s ∈ store.suites,
    s.duration.toNat = min (s.tests.map fun t => t.duration.toNat).sum (2 ^ 64 - 1)
  /-- Counting again finds what is there, now and after any test that is appended. -/
  recount_eq : ∀ s ∈ store.suites, s.recount = s
  push_eq_recount : ∀ s ∈ store.suites, ∀ test,
    s.push test = { s with tests := s.tests ++ [test] }.recount

/-- Whatever is put in, in whichever of the two ways and in any order, index, suites and tests fit
together after each step, and the suites are those that the steps fill without an index. -/
theorem SuiteStore.consistent_run (steps : List SuiteStep) :
    (run steps).Consistent ∧ (run steps).suites = Suites.run steps := by
  have hsettled : ∀ s ∈ (run steps).suites, s.Settled := by
    rw [suites_run]
    exact Suites.settled_run steps
  have hnodup : ((run steps).suites.map Suite.key).Nodup := by
    rw [suites_run]
    exact Suites.nodup_key_run steps
  refine ⟨?_, suites_run steps⟩
  exact
    { index_iff := fun name filePath i => by
        rw [indexed_run steps name filePath, Suites.index?_eq_some_iff hnodup]
      nodup_key := hnodup
      nonempty := fun s hs => (hsettled s hs).nonempty
      status_iff := fun s hs => by
        simpa only [Status.isFailure_iff] using (hsettled s hs).status_iff
      duration_eq := fun s hs => (hsettled s hs).duration_eq
      recount_eq := fun s hs => (hsettled s hs).recount_eq
      push_eq_recount := fun s hs => (hsettled s hs).push_eq_recount }

/-- A sum that had reached the largest word comes down again when a long test is replaced. -/
example :
    let long : Test := { id := "t", status := .failed, duration := 18446744073709551615 }
    (Suites.run [.push "S" "s.js" long, .push "S" "s.js" { id := "u", duration := 7 },
      .upsert "S" "s.js" { id := "t", duration := 2 }]).map (fun s => (s.duration, s.status)) =
        [(9, .passed)] := by
  decide

end TestReport
