import TestReport.Proofs.Members
import TestReport.Proofs.Plain

/-!
# Results survive being written

A result is written as a JSON value and read back in two steps: the value is taken to plain form by
the shape of results, and the result is built out of that. What is written is in plain form already
(`Shape.isPlain_report`), so only the building is left, and building undoes writing field by field.

There are three exceptions. A value that a failed test had or should have had may be `null`, and
then reads as absent, because the reader of a result takes `null` for a field that is not there.
What comes back therefore is the result without such values (`Report.withoutNulls`); it is the
result itself exactly when no failure holds one (`Report.withoutNulls_eq_iff`). Percentages have to
be finite (`Report.HasFinitePercents`), since only then they are numbers in JSON. And namespaces
have to be such as metadata keep them (`Metadata.WellKeyed`), since they are written among the
fields.
-/

namespace TestReport

open Json (Shape Mismatch)

/-! ## Percentages that are numbers -/

/-- Whether all percentages of coverage are finite, so that they can be written as numbers. -/
structure Coverage.HasFinitePercents (c : Coverage) : Prop where
  statements : c.statements.percent.isFinite = true
  branches : c.branches.percent.isFinite = true
  functions : c.functions.percent.isFinite = true
  lines : c.lines.percent.isFinite = true

/-- Whether a result has no coverage, or only finite percentages in it. -/
def Report.HasFinitePercents (r : Report) : Prop :=
  ∀ c, r.coverage = some c → c.HasFinitePercents

theorem floatJson_of_isFinite {x : Float} (h : x.isFinite = true) :
    floatJson x = .num (.float x) :=
  if_pos h

/-! ## What is written is plain -/

namespace Json.Shape

theorem isPlain_metric {m : Metric} (h : m.percent.isFinite = true) :
    metric.IsPlain m.toJson := by
  refine isPlain_record (by simp [field]) (by simp) ?_
  simp [floatJson_of_isFinite h]

theorem isPlain_coverage {c : Coverage} (h : c.HasFinitePercents) : coverage.IsPlain c.toJson := by
  refine isPlain_record (by simp [field]) (by simp) ?_
  simp [isPlain_metric h.statements, isPlain_metric h.branches, isPlain_metric h.functions,
    isPlain_metric h.lines]

@[simp]
theorem isPlain_failure (f : Failure) : failure.IsPlain f.toJson := by
  obtain ⟨message, stack, kind, diff, actual, expected⟩ := f
  refine isPlain_record (by simp [field]) ?_ ?_
  · cases diff <;> cases actual <;> cases expected <;> simp [optionalMember]
  · cases diff <;> cases actual <;> cases expected <;> simp [optionalMember]

@[simp]
theorem isPlain_test (t : Test) : test.IsPlain t.toJson := by
  obtain ⟨id, name, fullName, status, duration, filePath, error⟩ := t
  refine isPlain_record (by simp [field]) ?_ ?_
  · cases filePath <;> cases error <;> simp [Test.members, optionalMember]
  · cases filePath <;> cases error <;> simp [Test.members, optionalMember, isPlain_optional]

@[simp]
theorem isPlain_suite (s : Suite) : suite.IsPlain s.toJson := by
  refine isPlain_record (by simp [field]) (by simp) ?_
  have htests : test.list.IsPlain (.arr (s.tests.map Test.toJson)) :=
    isPlain_list (List.forall_mem_map.2 fun t _ => isPlain_test t)
  simp [htests]

@[simp]
theorem isPlain_summary (s : Summary) : summary.IsPlain s.toJson := by
  refine isPlain_record (by simp [field]) (by simp) ?_
  simp

@[simp]
theorem isPlain_environment (e : Environment) : environment.IsPlain e.toJson := by
  refine isPlain_record (by simp [field]) (by simp) ?_
  simp

end Json.Shape

/-- Namespaces as metadata keep them: in the order of their keys, and under no key of a field. -/
structure Metadata.WellKeyed (m : Metadata) : Prop where
  sorted : Json.Sorted m.namespaces
  not_mem : ∀ n ∈ m.namespaces, n.1 ∉ metadataKeys

theorem Metadata.sorted_fieldMembers (m : Metadata) : Json.Sorted m.fieldMembers := by
  have hkeys : ["environment", "framework", "parseError", "rawOutput", "schemaVersion",
      "version"].Pairwise (· < ·) := by decide +kernel
  have hsub : (m.fieldMembers.map (·.1)).Sublist ["environment", "framework", "parseError",
      "rawOutput", "schemaVersion", "version"] := by
    obtain ⟨framework, version, schemaVersion, environment, parseError, rawOutput, namespaces⟩ := m
    cases parseError <;> cases rawOutput <;> simp [Metadata.fieldMembers, optionalMember]
  exact List.pairwise_map.1 (hkeys.sublist hsub)

theorem Metadata.toJson_eq (m : Metadata) :
    m.toJson = .obj (Json.insertAll m.namespaces m.fieldMembers) := rfl

namespace Json.Shape

theorem isPlain_metadata {m : Metadata} (h : m.WellKeyed) : metadata.IsPlain m.toJson := by
  rw [Metadata.toJson_eq]
  have hnodup := (m.sorted_fieldMembers.insertAll m.namespaces).nodup_keys
  refine isPlain_record (by simp [field]) hnodup ?_
  intro n hn
  rcases Json.mem_insertAll hn with hown | hfield
  · obtain ⟨key, v⟩ := n
    have hne := h.not_mem _ hown
    simp only [metadataKeys, List.mem_cons, List.not_mem_nil, not_or, or_false] at hne
    obtain ⟨hframework, hversion, hschema, henvironment, hparse, hraw⟩ := hne
    simp [hframework, hversion, hschema, henvironment, hparse, hraw, eq_comm]
  · clear hn
    revert n
    obtain ⟨framework, version, schemaVersion, environment, parseError, rawOutput, namespaces⟩ := m
    cases parseError <;> cases rawOutput <;> simp [Metadata.fieldMembers, optionalMember]

theorem isPlain_report {r : Report} (h : r.metadata.WellKeyed) (hfinite : r.HasFinitePercents) :
    report.IsPlain r.toJson := by
  obtain ⟨summary, suites, coverage, metadata⟩ := r
  have hsuites : suite.list.IsPlain (.arr (suites.map Suite.toJson)) :=
    isPlain_list (List.forall_mem_map.2 fun s _ => isPlain_suite s)
  have hmetadata := isPlain_metadata h
  refine isPlain_record (by simp [field]) ?_ ?_
  · cases coverage <;> simp [optionalMember]
  · cases coverage with
    | none => simp [optionalMember, hsuites, hmetadata]
    | some c =>
      have hcoverage := isPlain_optional (isPlain_coverage (hfinite c rfl))
      simp [optionalMember, hcoverage, hsuites, hmetadata]

end Json.Shape

/-! ## Building out of what was written -/

/-- A failure as it comes back: a value that is `null` counts as none. -/
def Failure.withoutNulls (f : Failure) : Failure :=
  { f with actual := f.actual.filter (· ≠ .null), expected := f.expected.filter (· ≠ .null) }

/-- A test as it comes back. -/
def Test.withoutNulls (t : Test) : Test :=
  { t with error := t.error.map Failure.withoutNulls }

/-- A suite as it comes back. -/
def Suite.withoutNulls (s : Suite) : Suite :=
  { s with tests := s.tests.map Test.withoutNulls }

/-- A result as it comes back. -/
def Report.withoutNulls (r : Report) : Report :=
  { r with suites := r.suites.map Suite.withoutNulls }

section Build

open Json

theorem nat?_ofNat (n : Nat) : (Json.ofNat n).nat? = some n := rfl

theorem wordAt_of_get? {v : Json} {key : String} {n : UInt64}
    (h : v.get? key = some (wordJson n)) : v.wordAt key = n := by
  simp [wordAt, natAt, h, wordJson, nat?_ofNat]

theorem instantAt_of_get? {v : Json} {key : String} {t : Instant}
    (h : v.get? key = some t.toJson) : v.instantAt key = t := by
  simp [instantAt, stringAt?, h, Instant.toJson, str?, Instant.read_text, Except.toOption]

theorem Metric.ofPlain_toJson {m : Metric} (h : m.percent.isFinite = true) :
    Metric.ofPlain m.toJson = m := by
  have htotal : m.toJson.wordAt "total" = m.total := wordAt_of_get? rfl
  have hcovered : m.toJson.wordAt "covered" = m.covered := wordAt_of_get? rfl
  have hpercent : m.toJson.floatAt? "pct" = some m.percent := by
    rw [Metric.toJson, floatJson_of_isFinite h]
    rfl
  rw [Metric.ofPlain, htotal, hcovered, hpercent]
  rfl

theorem Coverage.ofPlain_toJson {c : Coverage} (h : c.HasFinitePercents) :
    Coverage.ofPlain c.toJson = c := by
  have hstatements : c.toJson.recordAt "statements" = c.statements.toJson := rfl
  have hbranches : c.toJson.recordAt "branches" = c.branches.toJson := rfl
  have hfunctions : c.toJson.recordAt "functions" = c.functions.toJson := rfl
  have hlines : c.toJson.recordAt "lines" = c.lines.toJson := rfl
  rw [Coverage.ofPlain, hstatements, hbranches, hfunctions, hlines,
    Metric.ofPlain_toJson h.statements, Metric.ofPlain_toJson h.branches,
    Metric.ofPlain_toJson h.functions, Metric.ofPlain_toJson h.lines]

theorem Failure.ofPlain_toJson (f : Failure) : Failure.ofPlain f.toJson = f.withoutNulls := by
  obtain ⟨message, stack, kind, diff, actual, expected⟩ := f
  cases diff <;> cases actual <;> cases expected <;> rfl

theorem Status.ofPlain_name (s : Status) : Status.ofPlain (.str s.name) = s := by
  cases s <;> rfl

theorem SuiteStatus.ofPlain_name (s : SuiteStatus) : SuiteStatus.ofPlain (.str s.name) = s := by
  cases s <;> rfl

theorem Test.ofPlain_toJson (t : Test) : Test.ofPlain t.toJson = t.withoutNulls := by
  obtain ⟨id, name, fullName, status, duration, filePath, error⟩ := t
  have hduration (members : List (String × Json)) :
      (Json.obj (("duration", wordJson duration) :: members)).wordAt "duration" = duration :=
    wordAt_of_get? rfl
  have herror : ((error.map Failure.toJson).filter (· ≠ .null)).map Failure.ofPlain =
      error.map Failure.withoutNulls := by
    cases error with
    | none => rfl
    | some f => exact congrArg some f.ofPlain_toJson
  cases filePath <;> cases error <;>
    exact Test.mk.injEq .. ▸ ⟨rfl, rfl, rfl, status.ofPlain_name, hduration _, rfl, herror⟩

theorem Suite.ofPlain_toJson (s : Suite) : Suite.ofPlain s.toJson = s.withoutNulls := by
  have hduration : s.toJson.wordAt "duration" = s.duration := wordAt_of_get? rfl
  have hstatus : (s.toJson.get? "status").map SuiteStatus.ofPlain = some s.status :=
    congrArg some s.status.ofPlain_name
  have htests : s.toJson.itemsAt "tests" = s.tests.map Test.toJson := rfl
  rw [Suite.ofPlain, hduration, hstatus, htests, List.map_map]
  simp only [Function.comp_def, Test.ofPlain_toJson]
  rfl

theorem Summary.ofPlain_toJson (s : Summary) : Summary.ofPlain s.toJson = s := by
  have hduration : s.toJson.wordAt "duration" = s.duration := wordAt_of_get? rfl
  have htotal : s.toJson.wordAt "totalTests" = s.totalTests := wordAt_of_get? rfl
  have hpassed : s.toJson.wordAt "passedTests" = s.passedTests := wordAt_of_get? rfl
  have hfailed : s.toJson.wordAt "failedTests" = s.failedTests := wordAt_of_get? rfl
  have hskipped : s.toJson.wordAt "skippedTests" = s.skippedTests := wordAt_of_get? rfl
  have hstart : s.toJson.instantAt "startTime" = s.startTime := instantAt_of_get? rfl
  have hend : s.toJson.instantAt "endTime" = s.endTime := instantAt_of_get? rfl
  rw [Summary.ofPlain, hduration, htotal, hpassed, hfailed, hskipped, hstart, hend]
  rfl

theorem Environment.ofPlain_toJson (e : Environment) : Environment.ofPlain e.toJson = e := rfl

/-- The fields of metadata are found among the namespaces. -/
theorem Metadata.get?_toJson {m : Metadata} (h : m.WellKeyed) (key : String)
    (hkey : key ∈ metadataKeys) : m.toJson.get? key = m.fieldMembers.lookup key :=
  Json.lookup_insertAll (fun n hn heq => h.not_mem n hn (heq ▸ hkey)) m.fieldMembers

/-- The namespaces of metadata are what is found besides the fields. -/
theorem Metadata.filter_toJson {m : Metadata} (h : m.WellKeyed) :
    (m.toJson.members?.getD []).filter (fun n => !metadataKeys.contains n.1) = m.namespaces := by
  have hfields : m.fieldMembers.filter (fun n => !metadataKeys.contains n.1) = [] := by
    obtain ⟨framework, version, schemaVersion, environment, parseError, rawOutput, namespaces⟩ := m
    cases parseError <;> cases rawOutput <;> rfl
  have hown : ∀ n ∈ m.namespaces, (!metadataKeys.contains n.1) = true := by
    simpa using h.not_mem
  have hfilter := Json.filter_insertAll (p := fun key => !metadataKeys.contains key) hown
    m.sorted_fieldMembers
  rw [hfields] at hfilter
  exact hfilter.trans (Json.sortMembers_of_sorted h.sorted)

theorem Metadata.ofPlain_toJson {m : Metadata} (h : m.WellKeyed) :
    Metadata.ofPlain m.toJson = m := by
  have hnamespaces : Json.sortMembers ((m.toJson.members?.getD []).filter fun n =>
      !metadataKeys.contains n.1) = m.namespaces := by
    rw [Metadata.filter_toJson h, Json.sortMembers_of_sorted h.sorted]
  have hget := Metadata.get?_toJson h
  have hframework := hget "framework" (by decide)
  have hversion := hget "version" (by decide)
  have hschema := hget "schemaVersion" (by decide)
  have henvironment := hget "environment" (by decide)
  have hparse := hget "parseError" (by decide)
  have hraw := hget "rawOutput" (by decide)
  unfold Metadata.ofPlain
  rw [hnamespaces]
  unfold stringAt stringAt? recordAt flagAt?
  rw [hframework, hversion, hschema, henvironment, hparse, hraw]
  obtain ⟨framework, version, schemaVersion, environment, parseError, rawOutput, namespaces⟩ := m
  have hword : UInt32.ofNat schemaVersion.toNat = schemaVersion := by simp
  cases parseError <;> cases rawOutput <;>
    exact Metadata.mk.injEq .. ▸ ⟨rfl, rfl, hword, rfl, rfl, rfl, rfl⟩

theorem Report.ofPlain_toJson {r : Report} (h : r.metadata.WellKeyed)
    (hfinite : r.HasFinitePercents) : Report.ofPlain r.toJson = r.withoutNulls := by
  obtain ⟨summary, suites, coverage, metadata⟩ := r
  have hsuites : (suites.map Suite.toJson).map Suite.ofPlain = suites.map Suite.withoutNulls := by
    simp only [List.map_map, Function.comp_def, Suite.ofPlain_toJson]
  have hcoverage : ((coverage.map Coverage.toJson).filter (· ≠ .null)).map Coverage.ofPlain =
      coverage := by
    cases coverage with
    | none => rfl
    | some c => exact congrArg some (Coverage.ofPlain_toJson (hfinite c rfl))
  cases coverage <;>
    exact Report.mk.injEq .. ▸
      ⟨summary.ofPlain_toJson, hsuites, hcoverage, Metadata.ofPlain_toJson h⟩

end Build

/-! ## There and back -/

/-- A result is always read back, and comes back without the values that are `null`. -/
theorem Report.ofJson?_toJson {r : Report} (h : r.metadata.WellKeyed)
    (hfinite : r.HasFinitePercents) : Report.ofJson? r.toJson = .ok r.withoutNulls := by
  have hplain : Shape.report.read r.toJson = .ok r.toJson := Shape.isPlain_report h hfinite
  rw [Report.ofJson?, hplain]
  exact congrArg Except.ok (Report.ofPlain_toJson h hfinite)

theorem Failure.withoutNulls_eq_iff {f : Failure} :
    f.withoutNulls = f ↔ f.actual ≠ some .null ∧ f.expected ≠ some .null := by
  have hfilter (v : Option Json) : v.filter (· ≠ .null) = v ↔ v ≠ some .null := by
    cases v <;> simp [Option.filter]
  obtain ⟨message, stack, kind, diff, actual, expected⟩ := f
  rw [withoutNulls, Failure.mk.injEq]
  simp only [hfilter, true_and]

theorem Test.withoutNulls_eq_iff {t : Test} :
    t.withoutNulls = t ↔ ∀ f, t.error = some f → f.withoutNulls = f := by
  obtain ⟨id, name, fullName, status, duration, filePath, error⟩ := t
  rw [withoutNulls, Test.mk.injEq]
  cases error <;> simp

theorem Suite.withoutNulls_eq_iff {s : Suite} :
    s.withoutNulls = s ↔ ∀ t ∈ s.tests, t.withoutNulls = t := by
  obtain ⟨name, filePath, duration, status, tests⟩ := s
  rw [withoutNulls, Suite.mk.injEq]
  simpa using List.map_inj_left (f := Test.withoutNulls) (g := id) (l := tests)

/-- A result comes back as it was exactly when no failure of its tests holds a `null`. -/
theorem Report.withoutNulls_eq_iff {r : Report} :
    r.withoutNulls = r ↔
      ∀ t ∈ allTests r.suites, ∀ f, t.error = some f →
        f.actual ≠ some .null ∧ f.expected ≠ some .null := by
  obtain ⟨summary, suites, coverage, metadata⟩ := r
  have hsuites : suites.map Suite.withoutNulls = suites ↔
      ∀ s ∈ suites, s.withoutNulls = s := by
    simpa using List.map_inj_left (f := Suite.withoutNulls) (g := id) (l := suites)
  rw [withoutNulls, Report.mk.injEq]
  simp only [hsuites, Suite.withoutNulls_eq_iff, Test.withoutNulls_eq_iff,
    Failure.withoutNulls_eq_iff, true_and, and_true, allTests]
  exact List.forall_mem_flatMap.symm

end TestReport
