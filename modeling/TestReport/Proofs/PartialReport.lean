import TestReport.Proofs.Codec
import TestReport.Proofs.Excerpts

/-!
# Results of which parts are missing

A result is read even when members of its records are missing, at any depth, and when there are
members that records of results do not know. What is read then is the result with the defaults of
the fields that are missing (`Report.excerpt`), and with everything else as it was
(`Report.ofJson?_of_isExcerpt`). Among the members of metadata there are none that are unknown,
since what is no field is a namespace.

Each record has two parts here: what is left of it in an excerpt, field by field, and that this is
what an excerpt of its value reads as. A record with others inside asks them what they read as.
-/

namespace TestReport

open Json (Shape exists_excerpted)

/-! ## What is left of a result -/

/-- A value that counts if a key is there, or else a default. -/
def Json.kept {α : Type} (v : Json) (key : String) (value default : α) : α :=
  if (v.get? key).isSome then value else default

/-- What is left of a count of coverage. -/
def Metric.excerpt (m : Metric) (v : Json) : Metric where
  total := v.kept "total" m.total 0
  covered := v.kept "covered" m.covered 0
  percent := v.kept "pct" m.percent 0

/-- What is left of coverage. -/
def Coverage.excerpt (c : Coverage) (v : Json) : Coverage where
  statements := (v.get? "statements").elim {} c.statements.excerpt
  branches := (v.get? "branches").elim {} c.branches.excerpt
  functions := (v.get? "functions").elim {} c.functions.excerpt
  lines := (v.get? "lines").elim {} c.lines.excerpt

/-- What is left of a failure. -/
def Failure.excerpt (f : Failure) (v : Json) : Failure where
  message := v.kept "message" f.message ""
  stack := v.kept "stack" f.stack ""
  kind := v.kept "type" f.kind "Error"
  diff := v.kept "diff" f.diff none
  actual := v.kept "actual" f.actual none
  expected := v.kept "expected" f.expected none

/-- What is left of a test. -/
def Test.excerpt (t : Test) (v : Json) : Test where
  id := v.kept "id" t.id ""
  name := v.kept "name" t.name ""
  fullName := v.kept "fullName" t.fullName ""
  status := v.kept "status" t.status .passed
  duration := v.kept "duration" t.duration 0
  filePath := v.kept "filePath" t.filePath none
  error := (v.get? "error").bind fun w => t.error.map (·.excerpt w)

/-- What is left of a suite; its tests are still all there if there are tests at all. -/
def Suite.excerpt (s : Suite) (v : Json) : Suite where
  name := v.kept "name" s.name ""
  filePath := v.kept "filePath" s.filePath ""
  duration := v.kept "duration" s.duration 0
  status := v.kept "status" s.status .passed
  tests := (v.get? "tests").elim [] fun w => List.zipWith Test.excerpt s.tests (w.items?.getD [])

/-- What is left of a summary. -/
def Summary.excerpt (s : Summary) (v : Json) : Summary where
  success := v.kept "success" s.success false
  totalTests := v.kept "totalTests" s.totalTests 0
  passedTests := v.kept "passedTests" s.passedTests 0
  failedTests := v.kept "failedTests" s.failedTests 0
  skippedTests := v.kept "skippedTests" s.skippedTests 0
  duration := v.kept "duration" s.duration 0
  startTime := v.kept "startTime" s.startTime .epoch
  endTime := v.kept "endTime" s.endTime .epoch

/-- What is left of a host. -/
def Environment.excerpt (e : Environment) (v : Json) : Environment where
  runtime := v.kept "runtime" e.runtime ""
  platform := v.kept "platform" e.platform ""
  arch := v.kept "arch" e.arch ""

/-- What is left of metadata. -/
def Metadata.excerpt (m : Metadata) (v : Json) : Metadata where
  framework := v.kept "framework" m.framework ""
  version := v.kept "version" m.version "unknown"
  schemaVersion := v.kept "schemaVersion" m.schemaVersion 1
  environment := (v.get? "environment").elim {} m.environment.excerpt
  parseError := v.kept "parseError" m.parseError false
  rawOutput := v.kept "rawOutput" m.rawOutput none
  namespaces := m.namespaces.filter fun n => (v.get? n.1).isSome

/-- What is left of a result; its suites are still all there if there are suites at all. -/
def Report.excerpt (r : Report) (v : Json) : Report where
  summary := (v.get? "summary").elim {} r.summary.excerpt
  suites :=
    (v.get? "testSuites").elim [] fun w => List.zipWith Suite.excerpt r.suites (w.items?.getD [])
  coverage := (v.get? "coverage").bind fun w => r.coverage.map (·.excerpt w)
  metadata := (v.get? "metadata").elim {} r.metadata.excerpt

/-! ## Looking up what is left -/

namespace Json

section Kept

variable {v w p : Json} {key : String} (h : p.get? key = v.kept key (w.get? key) none)
include h

theorem apply_get?_of_kept {α : Type} (f : Option Json → α) :
    f (p.get? key) = v.kept key (f (w.get? key)) (f none) := by
  rw [h]
  exact apply_ite f _ _ _

theorem stringAt_of_kept (default : String) :
    p.stringAt key default = v.kept key (w.stringAt key default) default :=
  apply_get?_of_kept h fun found => (found.bind str?).getD default

theorem stringAt?_of_kept : p.stringAt? key = v.kept key (w.stringAt? key) none :=
  apply_get?_of_kept h fun found => found.bind str?

theorem present?_of_kept : p.present? key = v.kept key (w.present? key) none :=
  apply_get?_of_kept h fun found => found.filter (· ≠ null)

theorem wordAt_of_kept : p.wordAt key = v.kept key (w.wordAt key) 0 :=
  apply_get?_of_kept h fun found => UInt64.ofNat ((found.bind nat?).getD 0)

theorem flagAt?_of_kept : p.flagAt? key = v.kept key (w.flagAt? key) none := by
  unfold flagAt?
  rw [h]
  unfold kept
  by_cases hkey : (v.get? key).isSome = true
  · rw [if_pos hkey, if_pos hkey]
  · rw [if_neg hkey, if_neg hkey]

theorem floatAt?_of_kept : p.floatAt? key = v.kept key (w.floatAt? key) none := by
  unfold floatAt?
  rw [h]
  unfold kept
  by_cases hkey : (v.get? key).isSome = true
  · rw [if_pos hkey, if_pos hkey]
  · rw [if_neg hkey, if_neg hkey]

theorem instantAt_of_kept : p.instantAt key = v.kept key (w.instantAt key) .epoch :=
  apply_get?_of_kept h fun found =>
    ((found.bind str?).bind fun s => (Instant.read s).toOption).getD .epoch

end Kept

theorem getD_kept {α : Type} (v : Json) (key : String) (value : Option α) (default : α) :
    (v.kept key value none).getD default = v.kept key (value.getD default) default :=
  apply_ite (Option.getD · default) _ _ _

end Json

/-! ## Records without others inside -/

namespace Json.Shape

@[simp]
theorem readsExcerpts_metric : metric.ReadsExcerpts :=
  readsExcerpts_record (by simp [field]) (by simp [field, IsWhole.readsExcerpts])

@[simp]
theorem readsExcerpts_failure : failure.ReadsExcerpts :=
  readsExcerpts_record (by simp [field]) (by simp [field, IsWhole.readsExcerpts])

@[simp]
theorem readsExcerpts_summary : summary.ReadsExcerpts :=
  readsExcerpts_record (by simp [field]) (by simp [field, IsWhole.readsExcerpts])

@[simp]
theorem readsExcerpts_environment : environment.ReadsExcerpts :=
  readsExcerpts_record (by simp [field]) (by simp [field, IsWhole.readsExcerpts])

/-- A record without others inside is read out of an excerpt field by field. -/
theorem exists_read_of_isWhole {layout : Layout} {fields : List (Slot × Shape)} {v w : Json}
    (hrequired : ∀ f ∈ fields, f.1.required = false) (hwhole : ∀ f ∈ fields, f.2.IsWhole)
    (hplain : (record layout fields).IsPlain w) (h : (record layout fields).IsExcerpt w v) :
    ∃ p, (record layout fields).read v = .ok p ∧
      ∀ key, p.get? key = v.kept key (w.get? key) none := by
  obtain ⟨p, hp⟩ := exists_excerpted hrequired (fun f hf => (hwhole f hf).readsExcerpts) hplain h
  exact ⟨p, hp.read_eq, fun key => hp.get?_of_isWhole fun f hf _ => hwhole f hf⟩

end Json.Shape

theorem Metric.map_read_excerpt {m : Metric} (hfinite : m.percent.isFinite = true) {v : Json}
    (h : Shape.metric.IsExcerpt m.toJson v) :
    (Shape.metric.read v).map ofPlain = .ok (m.excerpt v) := by
  obtain ⟨p, hread, hget⟩ := Shape.exists_read_of_isWhole (by simp [Json.field])
    (by simp [Json.field]) (Shape.isPlain_metric hfinite) h
  have hleft : ofPlain p = (ofPlain m.toJson).excerpt v := by
    simp only [ofPlain, Json.wordAt_of_kept (hget _), Json.floatAt?_of_kept (hget _),
      Json.getD_kept, excerpt]
  exact Json.map_eq_ok.2 ⟨p, hread, hleft.trans (by rw [ofPlain_toJson hfinite])⟩

theorem Failure.map_read_excerpt {f : Failure} {v : Json}
    (h : Shape.failure.IsExcerpt f.toJson v) :
    (Shape.failure.read v).map ofPlain = .ok (f.withoutNulls.excerpt v) := by
  obtain ⟨p, hread, hget⟩ := Shape.exists_read_of_isWhole (by simp [Json.field])
    (by simp [Json.field]) (Shape.isPlain_failure f) h
  have hleft : ofPlain p = (ofPlain f.toJson).excerpt v := by
    simp only [ofPlain, Json.stringAt_of_kept (hget _), Json.stringAt?_of_kept (hget _),
      Json.present?_of_kept (hget _), excerpt]
  exact Json.map_eq_ok.2 ⟨p, hread, hleft.trans (by rw [ofPlain_toJson])⟩

theorem Summary.map_read_excerpt {s : Summary} {v : Json}
    (h : Shape.summary.IsExcerpt s.toJson v) :
    (Shape.summary.read v).map ofPlain = .ok (s.excerpt v) := by
  obtain ⟨p, hread, hget⟩ := Shape.exists_read_of_isWhole (by simp [Json.field])
    (by simp [Json.field]) (Shape.isPlain_summary s) h
  have hleft : ofPlain p = (ofPlain s.toJson).excerpt v := by
    simp only [ofPlain, Json.wordAt_of_kept (hget _), Json.flagAt?_of_kept (hget _),
      Json.instantAt_of_kept (hget _), Json.getD_kept, excerpt]
  exact Json.map_eq_ok.2 ⟨p, hread, hleft.trans (by rw [ofPlain_toJson])⟩

theorem Environment.map_read_excerpt {e : Environment} {v : Json}
    (h : Shape.environment.IsExcerpt e.toJson v) :
    (Shape.environment.read v).map ofPlain = .ok (e.excerpt v) := by
  obtain ⟨p, hread, hget⟩ := Shape.exists_read_of_isWhole (by simp [Json.field])
    (by simp [Json.field]) (Shape.isPlain_environment e) h
  have hleft : ofPlain p = (ofPlain e.toJson).excerpt v := by
    simp only [ofPlain, Json.stringAt_of_kept (hget _), excerpt]
  exact Json.map_eq_ok.2 ⟨p, hread, hleft⟩

/-! ## Records with others inside -/

theorem Test.get?_toJson_error (t : Test) :
    t.toJson.get? "error" = t.error.map Failure.toJson := by
  obtain ⟨id, name, fullName, status, duration, filePath, error⟩ := t
  cases filePath <;> cases error <;> rfl

namespace Json

variable {v p : Json} {key : String} {β : Type} {build part : Json → β}

theorem build_recordAt (h : (p.get? key).map build = (v.get? key).map part) :
    build (p.recordAt key) = (v.get? key).elim (build (.obj [])) part := by
  unfold recordAt
  cases hp : p.get? key <;> cases hv : v.get? key <;> simp_all

theorem build_itemsAt {build : Json → β} {part : Json → List β}
    (h : (p.get? key).map (fun q => (q.items?.getD []).map build) = (v.get? key).map part) :
    (p.itemsAt key).map build = (v.get? key).elim [] part := by
  unfold itemsAt
  cases hp : p.get? key <;> cases hv : v.get? key <;> simp_all

/-- What is built out of an optional record, if there is one. -/
def buildOptional (build : Json → β) (q : Json) : Option β :=
  if q = null then none else some (build q)

theorem build_present? {part : Json → Option β}
    (h : (p.get? key).map (buildOptional build) = (v.get? key).map part) :
    (p.present? key).map build = (v.get? key).bind part := by
  have hbuild : (p.present? key).map build = (p.get? key).bind (buildOptional build) := by
    unfold present? buildOptional
    cases p.get? key with
    | none => rfl
    | some q => by_cases hq : q = null <;> simp [hq]
  rw [hbuild]
  cases hp : p.get? key <;> cases hv : v.get? key <;> simp_all

/-- An optional record that is there is read as the record. -/
theorem map_read_optional {layout : Layout} {fields : List (Slot × Shape)} {b : β}
    (h : ((Shape.record layout fields).read v).map build = .ok b) :
    ((Shape.record layout fields).optional.read v).map (buildOptional build) = .ok (some b) := by
  obtain ⟨q, hread, hbuilt⟩ := map_eq_ok.1 h
  obtain ⟨members, rfl⟩ := exists_obj_of_read_record hread
  have hoptional : (Shape.record layout fields).optional.read v = .ok (.obj members) := by
    cases v with
    | null => cases hread
    | _ => exact hread
  exact map_eq_ok.2 ⟨_, hoptional, congrArg some hbuilt⟩

end Json

namespace Json.Shape

@[simp]
theorem readsExcerpts_coverage : coverage.ReadsExcerpts :=
  readsExcerpts_record (by simp [field]) (by simp [field])

@[simp]
theorem readsExcerpts_test : test.ReadsExcerpts :=
  readsExcerpts_record (by simp [field])
    (by simp [field, IsWhole.readsExcerpts, ReadsExcerpts.optional])

@[simp]
theorem readsExcerpts_suite : suite.ReadsExcerpts :=
  readsExcerpts_record (by simp [field])
    (by simp [field, IsWhole.readsExcerpts, ReadsExcerpts.list])

@[simp]
theorem readsExcerpts_metadata : metadata.ReadsExcerpts :=
  readsExcerpts_record (by simp [field]) (by simp [field, IsWhole.readsExcerpts])

end Json.Shape

theorem Coverage.map_read_excerpt {c : Coverage} (hfinite : c.HasFinitePercents) {v : Json}
    (h : Shape.coverage.IsExcerpt c.toJson v) :
    (Shape.coverage.read v).map ofPlain = .ok (c.excerpt v) := by
  obtain ⟨p, hp⟩ := exists_excerpted (by simp [Json.field]) (by simp [Json.field])
    (Shape.isPlain_coverage hfinite) h
  have hmetric {key : String} {slot : Json.Slot} {m : Metric}
      (hslot : Json.slotFor? [Json.field "statements" Shape.metric,
        Json.field "branches" Shape.metric, Json.field "functions" Shape.metric,
        Json.field "lines" Shape.metric] key = some (slot, Shape.metric))
      (hkey : c.toJson.get? key = some m.toJson) (hm : m.percent.isFinite = true) :
      Metric.ofPlain (p.recordAt key) = (v.get? key).elim {} m.excerpt := by
    refine Json.build_recordAt (hp.map_get? hslot fun whole kept hwhole hkept => ?_)
    obtain rfl := Option.some.inj (hkey.symm.trans hwhole)
    exact Metric.map_read_excerpt hm hkept
  refine Json.map_eq_ok.2 ⟨p, hp.read_eq, ?_⟩
  rw [ofPlain, hmetric rfl rfl hfinite.statements, hmetric rfl rfl hfinite.branches,
    hmetric rfl rfl hfinite.functions, hmetric rfl rfl hfinite.lines]
  rfl

theorem Test.map_read_excerpt {t : Test} {v : Json} (h : Shape.test.IsExcerpt t.toJson v) :
    (Shape.test.read v).map ofPlain = .ok (t.withoutNulls.excerpt v) := by
  obtain ⟨p, hp⟩ := exists_excerpted (by simp [Json.field])
    (by simp [Json.field, Shape.IsWhole.readsExcerpts, Shape.ReadsExcerpts.optional])
    (Shape.isPlain_test t) h
  have hget {key : String} (hne : key ≠ "error") :
      p.get? key = v.kept key (t.toJson.get? key) none :=
    hp.get?_of_isWhole (by simp [Json.field, Json.Slot.answersTo, hne.symm])
  have herror : (p.present? "error").map Failure.ofPlain =
      (v.get? "error").bind fun w => t.withoutNulls.error.map (·.excerpt w) := by
    refine Json.build_present? (hp.map_get? rfl fun whole kept hwhole hkept => ?_)
    rw [Test.get?_toJson_error] at hwhole
    obtain ⟨f, hf, rfl⟩ := Option.map_eq_some_iff.1 hwhole
    obtain ⟨hnull, -⟩ | ⟨-, hkept⟩ := hkept
    · cases hnull
    · rw [withoutNulls, hf]
      exact Json.map_read_optional (Failure.map_read_excerpt hkept)
  have hstatus : ((p.get? "status").map Status.ofPlain).getD .passed =
      v.kept "status" (((t.toJson.get? "status").map Status.ofPlain).getD .passed) .passed :=
    Json.apply_get?_of_kept (hget (by decide)) fun found => (found.map Status.ofPlain).getD .passed
  have hleft : ofPlain p = (ofPlain t.toJson).excerpt v := by
    rw [← ofPlain_toJson] at herror
    unfold excerpt
    rw [← herror]
    simp (disch := decide) only [ofPlain, hstatus, Json.stringAt_of_kept (hget _),
      Json.stringAt?_of_kept (hget _), Json.wordAt_of_kept (hget _)]
  exact Json.map_eq_ok.2 ⟨p, hp.read_eq, hleft.trans (by rw [ofPlain_toJson])⟩

theorem Suite.map_read_excerpt {s : Suite} {v : Json} (h : Shape.suite.IsExcerpt s.toJson v) :
    (Shape.suite.read v).map ofPlain = .ok (s.withoutNulls.excerpt v) := by
  obtain ⟨p, hp⟩ := exists_excerpted (by simp [Json.field])
    (by simp [Json.field, Shape.IsWhole.readsExcerpts, Shape.ReadsExcerpts.list])
    (Shape.isPlain_suite s) h
  have hget {key : String} (hne : key ≠ "tests") :
      p.get? key = v.kept key (s.toJson.get? key) none :=
    hp.get?_of_isWhole (by simp [Json.field, Json.Slot.answersTo, hne.symm])
  have htests : (p.itemsAt "tests").map Test.ofPlain = (v.get? "tests").elim [] fun w =>
      List.zipWith Test.excerpt s.withoutNulls.tests (w.items?.getD []) := by
    refine Json.build_itemsAt (hp.map_get? rfl fun whole kept hwhole hkept => ?_)
    obtain rfl : Json.arr (s.tests.map Test.toJson) = whole := Option.some.inj hwhole
    have htest : ∀ t ∈ s.tests, ∀ w, Shape.test.IsExcerpt t.toJson w →
        (Shape.test.read w).map Test.ofPlain = .ok (t.withoutNulls.excerpt w) :=
      fun t _ w hw => Test.map_read_excerpt hw
    rw [Json.map_read_list htest hkept, withoutNulls, List.zipWith_map_left]
  have hstatus : ((p.get? "status").map SuiteStatus.ofPlain).getD .passed =
      v.kept "status" (((s.toJson.get? "status").map SuiteStatus.ofPlain).getD .passed) .passed :=
    Json.apply_get?_of_kept (hget (by decide)) fun found =>
      (found.map SuiteStatus.ofPlain).getD .passed
  have hleft : ofPlain p = (ofPlain s.toJson).excerpt v := by
    rw [← ofPlain_toJson] at htests
    unfold excerpt
    rw [← htests]
    simp (disch := decide) only [ofPlain, hstatus, Json.stringAt_of_kept (hget _),
      Json.wordAt_of_kept (hget _)]
  exact Json.map_eq_ok.2 ⟨p, hp.read_eq, hleft.trans (by rw [ofPlain_toJson])⟩

/-! ## Metadata -/

theorem Metadata.lookup_namespaces_ofPlain {v : Json}
    (h : ((v.members?.getD []).map (·.1)).Nodup) (key : String) :
    (ofPlain v).namespaces.lookup key = if key ∈ metadataKeys then none else v.get? key := by
  have hget : (v.members?.getD []).lookup key = v.get? key := by
    cases v <;> rfl
  have hkeys : (((v.members?.getD []).filter fun n => !metadataKeys.contains n.1).map
      (·.1)).Nodup :=
    ((List.filter_sublist.map _).nodup h)
  unfold ofPlain
  dsimp only
  rw [Json.lookup_sortMembers, ← Json.lookup_eq_of_perm hkeys (List.reverse_perm _).symm,
    Json.lookup_filter (fun key => !metadataKeys.contains key), hget]
  by_cases hkey : key ∈ metadataKeys <;> simp [hkey]

theorem Metadata.map_read_excerpt {m : Metadata} (hkeyed : m.WellKeyed) {v : Json}
    (h : Shape.metadata.IsExcerpt m.toJson v) :
    (Shape.metadata.read v).map ofPlain = .ok (m.excerpt v) := by
  obtain ⟨p, hp⟩ := exists_excerpted (by simp [Json.field])
    (by simp [Json.field, Shape.IsWhole.readsExcerpts]) (Shape.isPlain_metadata hkeyed) h
  have hget {key : String} (hne : key ≠ "environment") :
      p.get? key = v.kept key (m.toJson.get? key) none :=
    hp.get?_of_isWhole (by simp [Json.field, Json.Slot.answersTo, hne.symm])
  have henvironment : Environment.ofPlain (p.recordAt "environment") =
      (v.get? "environment").elim {} m.environment.excerpt := by
    refine Json.build_recordAt (hp.map_get? rfl fun whole kept hwhole hkept => ?_)
    rw [get?_toJson hkeyed _ (by decide)] at hwhole
    obtain rfl : m.environment.toJson = whole := Option.some.inj hwhole
    exact Environment.map_read_excerpt hkept
  have hschema : ((p.get? "schemaVersion").bind Json.nat?).elim TestReport.schemaVersion .ofNat =
      v.kept "schemaVersion" (((m.toJson.get? "schemaVersion").bind Json.nat?).elim
        TestReport.schemaVersion .ofNat) 1 :=
    Json.apply_get?_of_kept (hget (by decide)) fun found =>
      (found.bind Json.nat?).elim TestReport.schemaVersion .ofNat
  have hnamespaces : (ofPlain p).namespaces =
      (ofPlain m.toJson).namespaces.filter fun n => (v.get? n.1).isSome := by
    refine Json.Sorted.eq_of_lookup_eq (Json.sortMembers_sorted _)
      (List.Pairwise.filter _ (Json.sortMembers_sorted _)) fun key => ?_
    have hnodup : ((m.toJson.members?.getD []).map (·.1)).Nodup :=
      (m.sorted_fieldMembers.insertAll m.namespaces).nodup_keys
    rw [Json.lookup_filter (fun key => (v.get? key).isSome),
      lookup_namespaces_ofPlain hp.nodup_keys, lookup_namespaces_ofPlain hnodup]
    -- Under the key of a field there is no namespace, whether the field is gone or not.
    by_cases hkey : key ∈ metadataKeys
    · simp [hkey]
    · have hne : key ≠ "environment" := fun heq => hkey (heq ▸ by decide)
      rw [if_neg hkey, if_neg hkey, hget hne]
      rfl
  have hback : (ofPlain m.toJson).environment = m.environment := by
    rw [ofPlain_toJson hkeyed]
  have hleft : ofPlain p = (ofPlain m.toJson).excerpt v := by
    rw [← hback] at henvironment
    unfold excerpt
    rw [← hnamespaces, ← henvironment]
    simp (disch := decide) only [ofPlain, hschema, Json.stringAt_of_kept (hget _),
      Json.stringAt?_of_kept (hget _), Json.flagAt?_of_kept (hget _), Json.getD_kept]
  exact Json.map_eq_ok.2 ⟨p, hp.read_eq, hleft.trans (by rw [ofPlain_toJson hkeyed])⟩

/-! ## Results -/

theorem Report.get?_toJson (r : Report) :
    r.toJson.get? "summary" = some r.summary.toJson ∧
    r.toJson.get? "testSuites" = some (.arr (r.suites.map Suite.toJson)) ∧
    r.toJson.get? "coverage" = r.coverage.map Coverage.toJson ∧
    r.toJson.get? "metadata" = some r.metadata.toJson := by
  obtain ⟨summary, suites, coverage, metadata⟩ := r
  cases coverage <;> exact ⟨rfl, rfl, rfl, rfl⟩

/-- What is left of a result is read, whatever is missing in it at any depth and whatever unknown
members there are outside of metadata: fields that are missing have their defaults, and the others
are as they were, but for the values of failures that are `null`. -/
theorem Report.ofJson?_of_isExcerpt {r : Report} (hkeyed : r.metadata.WellKeyed)
    (hfinite : r.HasFinitePercents) {v : Json} (h : Shape.report.IsExcerpt r.toJson v) :
    Report.ofJson? v = .ok (r.withoutNulls.excerpt v) := by
  obtain ⟨hsummary, hsuites, hcoverage, hmetadata⟩ := r.get?_toJson
  obtain ⟨p, hp⟩ := exists_excerpted (by simp [Json.field])
    (by simp [Json.field, Shape.ReadsExcerpts.list, Shape.ReadsExcerpts.optional])
    (Shape.isPlain_report hkeyed hfinite) h
  have hsummary : Summary.ofPlain (p.recordAt "summary") =
      (v.get? "summary").elim {} r.summary.excerpt := by
    refine Json.build_recordAt (hp.map_get? rfl fun whole kept hwhole hkept => ?_)
    obtain rfl := Option.some.inj (hsummary.symm.trans hwhole)
    exact Summary.map_read_excerpt hkept
  have hsuites : (p.itemsAt "testSuites").map Suite.ofPlain =
      (v.get? "testSuites").elim [] fun w =>
        List.zipWith Suite.excerpt r.withoutNulls.suites (w.items?.getD []) := by
    refine Json.build_itemsAt (hp.map_get? rfl fun whole kept hwhole hkept => ?_)
    obtain rfl := Option.some.inj (hsuites.symm.trans hwhole)
    have hsuite : ∀ s ∈ r.suites, ∀ w, Shape.suite.IsExcerpt s.toJson w →
        (Shape.suite.read w).map Suite.ofPlain = .ok (s.withoutNulls.excerpt w) :=
      fun s _ w hw => Suite.map_read_excerpt hw
    rw [Json.map_read_list hsuite hkept, withoutNulls, List.zipWith_map_left]
  have hcoverage : (p.present? "coverage").map Coverage.ofPlain =
      (v.get? "coverage").bind fun w => r.coverage.map (·.excerpt w) := by
    refine Json.build_present? (hp.map_get? rfl fun whole kept hwhole hkept => ?_)
    rw [hcoverage] at hwhole
    obtain ⟨c, hc, rfl⟩ := Option.map_eq_some_iff.1 hwhole
    obtain ⟨hnull, -⟩ | ⟨-, hkept⟩ := hkept
    · cases hnull
    · rw [hc]
      exact Json.map_read_optional (Coverage.map_read_excerpt (hfinite c hc) hkept)
  have hmetadata : Metadata.ofPlain (p.recordAt "metadata") =
      (v.get? "metadata").elim {} r.metadata.excerpt := by
    refine Json.build_recordAt (hp.map_get? rfl fun whole kept hwhole hkept => ?_)
    obtain rfl := Option.some.inj (hmetadata.symm.trans hwhole)
    exact Metadata.map_read_excerpt hkeyed hkept
  refine Json.map_eq_ok.2 ⟨p, hp.read_eq, ?_⟩
  rw [ofPlain, hsummary, hsuites, hcoverage, hmetadata]
  rfl

/-- A result with one failed test, with coverage and with a namespace. -/
def failedReport : Report where
  summary := { totalTests := 1, failedTests := 1 }
  suites := [
    { name := "s"
      status := .failed
      tests := [
        { name := "t"
          status := .failed
          error := some
            { kind := "TypeError", actual := some .null, expected := some (.bool true) } }] }]
  coverage := some { lines := { total := 3, covered := 3, percent := 100 } }
  metadata := (Metadata.forRun "jest" (some "29") {}).insertNamespace "jest" (.bool true)

/-- What is left of it without its summary, with an unknown member at four places. -/
def failedRest : Json :=
  let failure := .obj [("actual", .null), ("cause", .str "c"), ("expected", .bool true)]
  let test := .obj [("error", failure), ("retries", .ofNat 2), ("status", .str "failed")]
  let suite := .obj [("name", .str "s"), ("tests", .arr [test])]
  let coverage := .obj [("branchesTrue", .null), ("lines", .obj [("total", .ofNat 3)])]
  .obj [("coverage", coverage), ("metadata", .obj [("jest", .bool true)]), ("note", .arr []),
    ("testSuites", .arr [suite])]

/-- The type of the error, the version and what else is gone have their defaults. -/
theorem Report.ofJson?_of_isExcerpt_failedRest :
    Report.ofJson? failedRest = .ok
      { suites := [
          { name := "s"
            tests := [
              { status := .failed
                error := some { kind := "Error", expected := some (.bool true) } }] }]
        coverage := some { lines := { total := 3 } }
        metadata :=
          { version := "unknown", schemaVersion := 1, namespaces := [("jest", .bool true)] } } := by
  have hkeyed : failedReport.metadata.WellKeyed :=
    (Metadata.wellKeyed_forRun "jest" (some "29") {}).insertNamespace "jest" _
  have hfinite : failedReport.HasFinitePercents := by
    intro c hc
    cases hc
    exact
      { statements := by decide +kernel
        branches := by decide +kernel
        functions := by decide +kernel
        lines := by decide +kernel }
  have hexcerpt : Shape.report.IsExcerpt failedReport.toJson failedRest := by
    refine ⟨_, rfl, by decide, ?_⟩
    simp only [List.forall_mem_cons]
    refine ⟨⟨_, rfl, .inr ⟨nofun, _, rfl, by decide, ?coverage⟩⟩,
      ⟨_, rfl, _, rfl, by decide, ?metadata⟩, nofun,
      ⟨_, rfl, _, _, rfl, rfl, .cons ⟨_, rfl, by decide, ?suite⟩ .nil⟩, nofun⟩
    case coverage =>
      simp only [List.forall_mem_cons]
      refine ⟨nofun, ⟨_, rfl, _, rfl, by decide, ?_⟩, nofun⟩
      simp only [List.forall_mem_cons]
      exact ⟨⟨_, rfl, rfl⟩, nofun⟩
    case metadata =>
      simp only [List.forall_mem_cons]
      exact ⟨fun _ => rfl, nofun⟩
    case suite =>
      simp only [List.forall_mem_cons]
      refine ⟨⟨_, rfl, rfl⟩, ⟨_, rfl, _, _, rfl, rfl, .cons ⟨_, rfl, by decide, ?_⟩ .nil⟩, nofun⟩
      simp only [List.forall_mem_cons]
      refine ⟨⟨_, rfl, .inr ⟨nofun, _, rfl, by decide, ?_⟩⟩, nofun, ⟨_, rfl, rfl⟩, nofun⟩
      simp only [List.forall_mem_cons]
      exact ⟨⟨_, rfl, .inl ⟨rfl, rfl⟩⟩, nofun, ⟨_, rfl, .inr ⟨nofun, rfl⟩⟩, nofun⟩
  refine (ofJson?_of_isExcerpt hkeyed hfinite hexcerpt).trans (congrArg Except.ok ?_)
  decide +kernel

end TestReport
