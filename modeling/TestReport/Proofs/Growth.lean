import TestReport.Proofs.Noise
import TestReport.Proofs.Reruns

/-!
# A growing event stream

Who reads a stream while it is still being written sees the result of its first lines, then of more
lines, and so on. From one result to the next nothing is taken away and nothing is moved: every
suite stays in its place, with its tests in their places, and new suites and new tests come last
(`VitestRun.suites_grow`).

`Suites.Grown` is this relation between two lists of suites. Putting a test in leaves it either with
the ids that were there or with one more at the end (`map_id_replaceTest`), so one event is a step
of growth, and so is a whole run of them (`VitestRun.grown_foldl`).
-/

namespace TestReport

open Text (Spells)

/-! ## Suites that grow -/

/-- Whether suites have only grown: each is known by its key in its place, and the ids of its tests
are still the first ones of it. -/
structure Suites.Grown (before after : List Suite) : Prop where
  keys_kept : before.map Suite.key <+: after.map Suite.key
  ids_kept : ∀ (i : Nat) (s s' : Suite), before[i]? = some s → after[i]? = some s' →
    s.tests.map (·.id) <+: s'.tests.map (·.id)

namespace Suites.Grown

theorem refl (suites : List Suite) : Suites.Grown suites suites where
  keys_kept := List.prefix_refl _
  ids_kept := by
    intro i s s' hs hs'
    obtain rfl : s = s' := Option.some.inj (hs.symm.trans hs')
    exact List.prefix_refl _

/-- A suite that was there is still there. -/
theorem exists_getElem? {before after : List Suite} (h : Suites.Grown before after) {i : Nat}
    {s : Suite} (hs : before[i]? = some s) : ∃ s', after[i]? = some s' ∧ s'.key = s.key := by
  have hkey : (before.map Suite.key)[i]? = some s.key := by rw [List.getElem?_map, hs]; rfl
  obtain ⟨added, hadded⟩ := h.keys_kept
  have hlt : i < (before.map Suite.key).length := (List.getElem?_eq_some_iff.1 hkey).1
  rw [← List.getElem?_append_left hlt, hadded, List.getElem?_map] at hkey
  exact Option.map_eq_some_iff.1 hkey

theorem trans {before middle after : List Suite} (h : Suites.Grown before middle)
    (h' : Suites.Grown middle after) : Suites.Grown before after where
  keys_kept := h.keys_kept.trans h'.keys_kept
  ids_kept := by
    intro i s s'' hs hs''
    obtain ⟨s', hs', -⟩ := h.exists_getElem? hs
    exact (h.ids_kept i s s' hs hs').trans (h'.ids_kept i s' s'' hs' hs'')

end Suites.Grown

/-! ## One event -/

/-- Putting a test in keeps all ids in their places; an id that is new comes last. -/
theorem map_id_replaceTest (test : Test) (tests : List Test) :
    (replaceTest test tests).map (·.id) =
      if test.id ∈ tests.map (·.id) then tests.map (·.id) else tests.map (·.id) ++ [test.id] := by
  induction tests with
  | nil => rfl
  | cons t rest ih =>
    unfold replaceTest
    by_cases hid : t.id = test.id
    · simp [hid]
    · rw [if_neg hid, List.map_cons, ih, List.map_cons]
      by_cases hmem : test.id ∈ rest.map (·.id)
      · rw [if_pos hmem, if_pos (List.mem_cons_of_mem _ hmem)]
      · rw [if_neg hmem, if_neg fun h => (List.mem_cons.1 h).elim (Ne.symm hid) hmem,
          List.cons_append]

theorem prefix_ite_append {α : Type} (c : Prop) [Decidable c] (l added : List α) :
    l <+: if c then l else l ++ added := by
  split
  · exact List.prefix_refl l
  · exact List.prefix_append l added

theorem Suite.ids_prefix_upsert (suite : Suite) (test : Test) :
    suite.tests.map (·.id) <+: (suite.upsert test).tests.map (·.id) := by
  have hids : (suite.upsert test).tests.map (·.id) = _ := map_id_replaceTest test suite.tests
  rw [hids]
  exact prefix_ite_append _ _ _

theorem Suites.grown_changeSuite {name filePath : String} {change : Suite → Suite}
    (hkey : ∀ s : Suite, (change s).key = s.key)
    (hids : ∀ s : Suite, s.tests.map (·.id) <+: (change s).tests.map (·.id))
    (suites : List Suite) :
    Suites.Grown suites (changeSuite name filePath change suites) where
  keys_kept := by
    rw [map_key_changeSuite hkey]
    exact prefix_ite_append _ _ _
  ids_kept := by
    induction suites with
    | nil => simp
    | cons first rest ih =>
      intro i s s' hs hs'
      unfold changeSuite at hs'
      by_cases hat : first.isAt name filePath = true
      · -- The first suite is changed, and the others are as they were.
        rw [if_pos hat] at hs'
        cases i with
        | zero =>
          obtain rfl : first = s := Option.some.inj hs
          obtain rfl : change first = s' := Option.some.inj hs'
          exact hids first
        | succ i => exact (Suites.Grown.refl rest).ids_kept i s s' hs hs'
      · rw [if_neg hat] at hs'
        cases i with
        | zero =>
          obtain rfl : first = s := Option.some.inj hs
          obtain rfl : first = s' := Option.some.inj hs'
          exact List.prefix_refl _
        | succ i => exact ih i s s' hs hs'

theorem VitestOutcome.grown_place (o : VitestOutcome) (options : Options) (suites : List Suite) :
    Suites.Grown suites (o.place options suites) := by
  unfold place
  split
  · exact .refl suites
  · exact Suites.grown_changeSuite (fun s => s.key_upsert _) (fun s => s.ids_prefix_upsert _) suites

/-! ## A whole stream -/

namespace VitestRun

theorem grown_apply (options : Options) (run : VitestRun) (event : VitestEvent) :
    Suites.Grown run.suites (run.apply options event).suites := by
  rw [suites_apply]
  split
  · exact VitestOutcome.grown_place _ options run.suites
  · exact .refl run.suites

theorem grown_foldl (options : Options) (events : List VitestEvent) (run : VitestRun) :
    Suites.Grown run.suites (events.foldl (apply options) run).suites := by
  induction events generalizing run with
  | nil => exact .refl run.suites
  | cons event events ih => exact (run.grown_apply options event).trans (ih _)

/-- Once the first lines of a stream hold an event, they decode, and so does the stream whatever
lines follow. All suites and tests of the first result are in their places in the second one, also
when the two are read at different times. -/
theorem suites_grow {environment : Environment} {options : Options} {output output' : String}
    {lines added : List (List Char)} (h : Spells lines output.toList)
    (h' : Spells (lines ++ added) output'.toList) (hevent : ∃ line ∈ lines, ¬ IsNoise line)
    (now now' : Instant) :
    ∃ r r', decode environment options output now = .ok r ∧
      decode environment options output' now' = .ok r' ∧ Suites.Grown r.suites r'.suites := by
  have hne := filterMap_lineEvent?_ne_nil_iff.2 hevent
  have hne' : (lines ++ added).filterMap lineEvent? ≠ [] := by
    rw [List.filterMap_append]
    exact List.append_ne_nil_of_left_ne_nil hne _
  refine ⟨_, _, decode_of_spells h hne, decode_of_spells h' hne', ?_⟩
  rw [List.filterMap_append, List.foldl_append]
  exact grown_foldl options _ _

/-- The event of a test that has failed. -/
def failedLine : List Char :=
  "\x7b\"type\":\"test-finished\",\"file\":\"a.ts\",\"name\":\"t\",\"state\":\"failed\"\x7d".toList

/-- The event of another test of another file. -/
def elsewhereLine : List Char :=
  "\x7b\"type\":\"test-finished\",\"file\":\"b.ts\",\"name\":\"u\",\"state\":\"passed\"\x7d".toList

/-- What a reader finds after the first test. -/
def polledStream : String :=
  String.ofList (failedLine ++ '\n' :: [])

/-- What the reader finds when the test has been run again and another file has come. -/
def laterStream : String :=
  String.ofList (failedLine ++ '\n' :: (elsewhereLine ++ '\n' :: (passedLine ++ '\n' :: [])))

theorem suites_grow_polledStream :
    ∃ r r', decode {} {} polledStream .epoch = .ok r ∧ decode {} {} laterStream .epoch = .ok r' ∧
      Suites.Grown r.suites r'.suites := by
  have hpolled : Spells [failedLine] polledStream.toList := by
    rw [polledStream, String.toList_ofList]
    exact .feed (by decide) .nil
  have hlater : Spells ([failedLine] ++ [elsewhereLine, passedLine]) laterStream.toList := by
    rw [laterStream, String.toList_ofList]
    exact .feed (by decide) (.feed (by decide) (.feed (by decide) .nil))
  have hevent : ¬ IsNoise failedLine := by
    rw [← lineEvent?_eq_none_iff, ← Option.isNone_iff_eq_none]
    decide +kernel
  exact suites_grow hpolled hlater ⟨failedLine, by simp, hevent⟩ .epoch .epoch

end VitestRun

end TestReport
