import TestReport.Proofs.Wire

/-!
# Reading what was written

A result that is written and read comes back, but for values that are `null` in a failure, which
come back absent (`Report.ofJson?_toJson`). This is a loss only once: what came back has no such
value any more, so that writing and reading it changes nothing (`Report.ofJson?_toJson_settles`).

Namespaces have to be well keyed for that. There are no others: well-keyed namespaces are just those
that can be put into metadata one by one (`Metadata.wellKeyed_iff_exists_insert`), and metadata that
are read have such namespaces, whatever they are read from (`Report.wellKeyed_of_ofJson?`).
-/

namespace TestReport

/-! ## Metadata as they can be made -/

namespace Metadata

theorem wellKeyed_of_namespaces_eq_nil {m : Metadata} (h : m.namespaces = []) : m.WellKeyed where
  sorted := h ▸ List.Pairwise.nil
  not_mem := by simp [h]

theorem wellKeyed_forRun (framework : String) (version : Option String)
    (environment : Environment) : (forRun framework version environment).WellKeyed :=
  wellKeyed_of_namespaces_eq_nil rfl

theorem insertNamespace_of_not_mem {key : String} (h : key ∉ metadataKeys) (m : Metadata)
    (value : Json) :
    m.insertNamespace key value = { m with namespaces := Json.insert key value m.namespaces } := by
  have hkey : ¬ metadataKeys.contains key = true := fun hmem => h (List.contains_iff_mem.1 hmem)
  rw [insertNamespace, insertNamespace?, if_neg hkey, Option.getD_some]

theorem insertNamespace_of_mem {key : String} (h : key ∈ metadataKeys) (m : Metadata)
    (value : Json) : m.insertNamespace key value = m := by
  rw [insertNamespace, insertNamespace?, if_pos (List.contains_iff_mem.2 h), Option.getD_none]

/-- A namespace is put in its place, or refused. -/
theorem WellKeyed.insertNamespace {m : Metadata} (h : m.WellKeyed) (key : String) (value : Json) :
    (m.insertNamespace key value).WellKeyed := by
  by_cases hkey : key ∈ metadataKeys
  · rwa [insertNamespace_of_mem hkey]
  · rw [insertNamespace_of_not_mem hkey]
    refine { sorted := Json.insert_sorted h.sorted, not_mem := fun n hn => ?_ }
    rcases Json.mem_insert hn with rfl | hold
    · exact hkey
    · exact h.not_mem n hold

/-- The metadata with some namespaces put in, one after the other. -/
def insertNamespaces (m : Metadata) (added : List (String × Json)) : Metadata :=
  added.foldl (fun m n => m.insertNamespace n.1 n.2) m

theorem WellKeyed.insertNamespaces {m : Metadata} (h : m.WellKeyed) (added : List (String × Json)) :
    (m.insertNamespaces added).WellKeyed :=
  List.foldlRecOn added _ h fun _ h n _ => h.insertNamespace n.1 n.2

/-- Only the namespaces are changed, and only those count that are not refused. -/
theorem insertNamespaces_eq (m : Metadata) (added : List (String × Json)) :
    m.insertNamespaces added =
      { m with namespaces :=
          Json.insertAll (added.filter fun n => n.1 ∉ metadataKeys) m.namespaces } := by
  unfold insertNamespaces Json.insertAll
  induction added generalizing m with
  | nil => rfl
  | cons n added ih =>
    rw [List.foldl_cons, ih]
    by_cases hn : n.1 ∈ metadataKeys
    · rw [insertNamespace_of_mem hn, List.filter_cons_of_neg (by simpa using hn)]
    · rw [insertNamespace_of_not_mem hn, List.filter_cons_of_pos (by simpa using hn),
        List.foldl_cons]

/-- Namespaces are well keyed exactly if they can be put in one by one. -/
theorem wellKeyed_iff_exists_insert {m : Metadata} :
    m.WellKeyed ↔ ∃ added, m = { m with namespaces := [] }.insertNamespaces added := by
  constructor
  · intro h
    refine ⟨m.namespaces, ?_⟩
    have hsorted : Json.insertAll m.namespaces [] = m.namespaces :=
      Json.sortMembers_of_sorted h.sorted
    have hall : m.namespaces.filter (fun n => n.1 ∉ metadataKeys) = m.namespaces :=
      List.filter_eq_self.2 fun n hn => decide_eq_true (h.not_mem n hn)
    rw [insertNamespaces_eq, hall, hsorted]
  · rintro ⟨added, h⟩
    rw [h]
    exact (wellKeyed_of_namespaces_eq_nil rfl).insertNamespaces added

theorem wellKeyed_ofPlain (v : Json) : (ofPlain v).WellKeyed where
  sorted := Json.sortMembers_sorted _
  not_mem := by
    intro n hn
    have hkey : n.1 ∈ (ofPlain v).namespaces.map (·.1) := List.mem_map_of_mem hn
    obtain ⟨n', hn', heq⟩ := List.mem_map.1 (Json.mem_keys_sortMembers.1 hkey)
    have hother := (List.mem_filter.1 hn').2
    rw [← heq]
    simpa using hother

end Metadata

/-- Whatever is read as a result, its namespaces are well keyed. -/
theorem Report.wellKeyed_of_ofJson? {v : Json} {r : Report} (h : Report.ofJson? v = .ok r) :
    r.metadata.WellKeyed := by
  obtain ⟨plain, -, rfl⟩ := Json.map_eq_ok.1 h
  exact Metadata.wellKeyed_ofPlain _

/-! ## Nulls are lost once -/

theorem Failure.withoutNulls_withoutNulls (f : Failure) :
    f.withoutNulls.withoutNulls = f.withoutNulls := by
  simp [withoutNulls, Option.filter_filter]

theorem Test.withoutNulls_withoutNulls (t : Test) :
    t.withoutNulls.withoutNulls = t.withoutNulls := by
  simp [withoutNulls, Function.comp_def, Failure.withoutNulls_withoutNulls]

theorem Suite.withoutNulls_withoutNulls (s : Suite) :
    s.withoutNulls.withoutNulls = s.withoutNulls := by
  simp [withoutNulls, Function.comp_def, Test.withoutNulls_withoutNulls]

theorem Report.withoutNulls_withoutNulls (r : Report) :
    r.withoutNulls.withoutNulls = r.withoutNulls := by
  simp [withoutNulls, Function.comp_def, Suite.withoutNulls_withoutNulls]

/-- Writing and reading gives a result without the `null`s of its failures, and gives that one
again. It gives the result itself exactly if there are no such `null`s. -/
theorem Report.ofJson?_toJson_settles {r : Report} (h : r.metadata.WellKeyed)
    (hfinite : r.HasFinitePercents) :
    Report.ofJson? r.toJson = .ok r.withoutNulls ∧
      Report.ofJson? r.withoutNulls.toJson = .ok r.withoutNulls ∧
      (Report.ofJson? r.toJson = .ok r ↔
        ∀ t ∈ allTests r.suites, ∀ f, t.error = some f →
          f.actual ≠ some .null ∧ f.expected ≠ some .null) := by
  have hback : Report.ofJson? r.toJson = .ok r.withoutNulls := Report.ofJson?_toJson h hfinite
  refine ⟨hback, ?_, ?_⟩
  · have hagain : Report.ofJson? r.withoutNulls.toJson = .ok r.withoutNulls.withoutNulls :=
      Report.ofJson?_toJson h hfinite
    rw [hagain, r.withoutNulls_withoutNulls]
  · rw [hback, Except.ok.injEq]
    exact Report.withoutNulls_eq_iff

/-- A result with coverage, with a namespace and with a failure that found `null`. -/
def nullFailureReport : Report where
  summary := { totalTests := 1, failedTests := 1 }
  suites := [
    { name := "s"
      filePath := "a.ts"
      status := .failed
      tests := [
        { id := "a.ts t"
          name := "t"
          fullName := "t"
          status := .failed
          error := some { actual := some .null, expected := some (.bool true) } }] }]
  coverage := some { lines := { total := 3, covered := 2, percent := 66.67 } }
  metadata := (Metadata.forRun "jest" none {}).insertNamespace "jest" (.obj [("events", .null)])

/-- It comes back, but not as it was. -/
theorem Report.ofJson?_toJson_settles_nullFailure :
    Report.ofJson? nullFailureReport.toJson = .ok nullFailureReport.withoutNulls ∧
      Report.ofJson? nullFailureReport.toJson ≠ .ok nullFailureReport := by
  have hkeyed : nullFailureReport.metadata.WellKeyed :=
    (Metadata.wellKeyed_forRun "jest" none {}).insertNamespace "jest" _
  have hfinite : nullFailureReport.HasFinitePercents := by
    intro c hc
    cases hc
    exact
      { statements := by decide +kernel
        branches := by decide +kernel
        functions := by decide +kernel
        lines := by decide +kernel }
  obtain ⟨hback, -, hiff⟩ := ofJson?_toJson_settles hkeyed hfinite
  refine ⟨hback, fun hsame => ?_⟩
  exact (hiff.1 hsame _ List.mem_cons_self _ rfl).1 rfl

end TestReport
