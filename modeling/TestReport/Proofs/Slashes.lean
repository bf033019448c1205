import TestReport.Proofs.Console
import TestReport.Proofs.Grouping
import TestReport.Proofs.Reruns

/-!
# Paths with slashes

Reports of one run may write the path of a file with backslashes in one place and with slashes in
another. When paths are normalized, no path in a result has a backslash: not those of its suites, of
its tests, or of its console output (`Report.Slashed`). One step keeps this if neither the path of
the test that is put in nor the path of its suite has one.

Normalizing comes before tests are put into suites. So suites of files that differ in such writing
become one, and their tests change places. Still nothing but paths differs from what comes out
without normalizing (`Report.SameButPaths`). Put into suites or not, the tests are those that the
report lists, and a listed test does not depend on the option once all its backslashes are replaced
(`Test.withSlashes`). The tally of a summary does not look at paths, and does not depend on the
order of tests either (`Summary.tally_eq_of_perm`).
-/

namespace TestReport

/-! ## Slashes in texts -/

namespace Text

/-- A text with `/` in place of every `\`. -/
def withSlashes (s : String) : String :=
  String.ofList (s.toList.map fun c => if c = '\\' then '/' else c)

/-- Whether a path has no backslash. -/
def IsSlashed (path : String) : Prop :=
  '\\' ∉ path.toList

theorem isSlashed_withSlashes (s : String) : IsSlashed (withSlashes s) := by
  rw [IsSlashed, withSlashes, String.toList_ofList, List.mem_map]
  rintro ⟨c, -, hc⟩
  split at hc
  · cases hc
  · next hne => exact hne hc

@[simp] theorem isSlashed_normalizePath (s : String) : IsSlashed (normalizePath true s) :=
  isSlashed_withSlashes s

theorem withSlashes_of_isSlashed {s : String} (h : IsSlashed s) : withSlashes s = s := by
  have hkept : ∀ c ∈ s.toList, (if c = '\\' then '/' else c) = c := by
    intro c hc
    refine if_neg ?_
    rintro rfl
    exact h hc
  rw [withSlashes, List.map_congr_left hkept, List.map_id', String.ofList_toList]

@[simp] theorem withSlashes_append (s s' : String) :
    withSlashes (s ++ s') = withSlashes s ++ withSlashes s' := by
  simp [withSlashes]

/-- Normalized or not, a path is the same with slashes. -/
@[simp] theorem withSlashes_normalizePath (normalize : Bool) (s : String) :
    withSlashes (normalizePath normalize s) = withSlashes s := by
  cases normalize with
  | false => rfl
  | true => exact withSlashes_of_isSlashed (isSlashed_withSlashes s)

end Text

open Text (withSlashes IsSlashed)

/-! ## Results without backslashes -/

/-- Whether no path of some suites and of their tests has a backslash. -/
structure Suites.Slashed (suites : List Suite) : Prop where
  suite : ∀ s ∈ suites, IsSlashed s.filePath
  test : ∀ t ∈ allTests suites, ∀ path ∈ t.filePath, IsSlashed path

/-- Whether a value has a path without backslashes under the key `file`. -/
def Json.FileIsSlashed (v : Json) : Prop :=
  ∃ path, v.get? "file" = some (.str path) ∧ IsSlashed path

/-- Whether no path in a result has a backslash: suites, tests or console output. -/
structure Report.Slashed (r : Report) (framework : Framework) : Prop extends
    Suites.Slashed r.suites where
  console : ∀ v, r.console? framework = some v →
    ∃ entries, v = .arr entries ∧ ∀ e ∈ entries, e.FileIsSlashed

namespace Suites.Slashed

variable {suites : List Suite} {test : Test} {filePath : String}

theorem nil : Slashed [] where
  suite := by simp
  test := by simp [allTests]

theorem push (h : Slashed suites) (hpath : IsSlashed filePath)
    (htest : ∀ path ∈ test.filePath, IsSlashed path) (name : String) :
    Slashed (Suites.push suites name filePath test) where
  suite := forall_mem_changeSuite hpath (fun _ hs _ => hs) h.suite
  test := Suites.forall_mem_push h.test htest name filePath

theorem upsert (h : Slashed suites) (hpath : IsSlashed filePath)
    (htest : ∀ path ∈ test.filePath, IsSlashed path) (name : String) :
    Slashed (Suites.upsert suites name filePath test) where
  suite := forall_mem_changeSuite hpath (fun _ hs _ => hs) h.suite
  test := Suites.forall_mem_upsert h.test htest name filePath

end Suites.Slashed

variable {keep : Bool}

theorem MochaEntry.isSlashed_of_mem_path {e : MochaEntry} {path : String}
    (h : path ∈ e.path ⟨true, keep⟩) : IsSlashed path := by
  obtain ⟨file, -, rfl⟩ := Option.map_eq_some_iff.1 h
  exact Text.isSlashed_normalizePath file

theorem MochaReport.slashed_suites (r : MochaReport) :
    Suites.Slashed (r.suites ⟨true, keep⟩) := by
  refine List.foldlRecOn r.entries _ Suites.Slashed.nil fun suites h e _ => ?_
  refine h.push ?_ (fun _ hpath => MochaEntry.isSlashed_of_mem_path hpath) _
  cases hpath : e.1.path ⟨true, keep⟩ with
  | none => exact List.not_mem_nil
  | some path => exact MochaEntry.isSlashed_of_mem_path hpath

theorem JestFile.filePath_of_mem_tests {f : JestFile} {options : Options} {t : String × Test}
    (h : t ∈ f.tests options) : t.2.filePath = some (f.path options) := by
  rcases List.mem_append.1 h with h | h
  · obtain ⟨a, -, rfl⟩ := List.mem_map.1 h
    rfl
  · obtain ⟨message, -, rfl⟩ := Option.map_eq_some_iff.1 (Option.mem_toList.1 h)
    rfl

theorem JestReport.slashed_suites (r : JestReport) :
    Suites.Slashed (r.suites ⟨true, keep⟩) := by
  refine List.foldlRecOn r.files _ Suites.Slashed.nil fun suites h f _ => ?_
  refine List.foldlRecOn (f.tests ⟨true, keep⟩) _ h fun suites h t ht => ?_
  have hpath : IsSlashed (f.path ⟨true, keep⟩) := Text.isSlashed_normalizePath f.name
  refine h.push hpath (fun path hmem => ?_) t.1
  rw [JestFile.filePath_of_mem_tests ht] at hmem
  obtain rfl : f.path ⟨true, keep⟩ = path := Option.some.inj hmem
  exact hpath

theorem VitestRun.slashed_suites (events : List VitestEvent) :
    Suites.Slashed (events.foldl (apply ⟨true, keep⟩) {}).suites := by
  refine List.foldlRecOn (motive := fun run : VitestRun => Suites.Slashed run.suites) events _
    Suites.Slashed.nil fun run h event _ => ?_
  rw [suites_apply]
  cases event.outcome? with
  | none => exact h
  | some o =>
    have hpath : IsSlashed (o.path ⟨true, keep⟩) := Text.isSlashed_normalizePath o.file
    show Suites.Slashed (o.place ⟨true, keep⟩ run.suites)
    unfold VitestOutcome.place
    split
    · exact h
    · refine h.upsert hpath (fun path hmem => ?_) _
      obtain rfl : o.path ⟨true, keep⟩ = path := Option.some.inj hmem
      exact hpath

theorem WrittenReport.slashed_suites (written : WrittenReport) (environment : Environment)
    (now : Instant) : Suites.Slashed (written.toReport environment ⟨true, keep⟩ now).suites := by
  cases written with
  | mocha report => exact report.slashed_suites
  | jest report coverage => exact report.slashed_suites
  | vitest events => exact VitestRun.slashed_suites events

theorem WrittenReport.fileIsSlashed_of_mem_console {written : WrittenReport} {v : Json}
    (h : v ∈ written.console true) : v.FileIsSlashed := by
  cases written with
  | mocha report => cases h
  | jest report coverage =>
    obtain ⟨f, -, h⟩ := List.mem_flatMap.1 h
    obtain ⟨e, -, rfl⟩ := List.mem_map.1 h
    exact ⟨_, rfl, Text.isSlashed_normalizePath f.name⟩
  | vitest events =>
    obtain ⟨event, -, hvalue⟩ := List.mem_filterMap.1 h
    cases event with
    | consoleLog file content =>
      cases hvalue
      exact ⟨_, rfl, Text.isSlashed_normalizePath file⟩
    | runStarted version => cases hvalue
    | testFinished outcome => cases hvalue
    | runFinished totals => cases hvalue
    | progress => cases hvalue

theorem WrittenReport.slashed_toReport (written : WrittenReport) (environment : Environment)
    (now : Instant) :
    (written.toReport environment ⟨true, keep⟩ now).Slashed written.framework where
  toSlashed := written.slashed_suites environment now
  console v hv := by
    obtain ⟨r, others, hothers, heq⟩ := written.exists_toReport_eq environment true now
    rw [heq, Report.console?_withDetails r _ hothers] at hv
    obtain ⟨-, hv⟩ := Option.ite_none_left_eq_some.1 hv
    refine ⟨_, (Option.some.inj hv).symm, fun e he => ?_⟩
    cases keep with
    | false => cases he
    | true => exact fileIsSlashed_of_mem_console he

theorem Report.slashed_degraded (framework : Framework) (environment : Environment)
    (output : String) (e : ExtractError) (now : Instant) :
    (Report.degraded framework environment output e now).Slashed framework where
  suite s hs := by
    obtain rfl := List.mem_singleton.1 hs
    exact List.not_mem_nil
  test t ht := by
    obtain rfl := List.mem_singleton.1 ht
    simp [ExtractError.test]
  console v hv := by cases hv

/-! ## The same tests -/

/-- A test with `/` in place of every `\` in its path, in its id and in its whole name. -/
def Test.withSlashes (t : Test) : Test :=
  { t with
    id := Text.withSlashes t.id
    fullName := Text.withSlashes t.fullName
    filePath := t.filePath.map Text.withSlashes }

/-- Whether two lists of suites have the same tests, each as often, but for backslashes. -/
def Suites.SameTests (suites suites' : List Suite) : Prop :=
  ((allTests suites).map Test.withSlashes).Perm ((allTests suites').map Test.withSlashes)

/-- A tally depends on outcomes and durations alone, and not on their order. -/
theorem Summary.tally_eq_of_perm {suites suites' : List Suite}
    (h : ((allTests suites).map fun t => (t.status, t.duration)).Perm
      ((allTests suites').map fun t => (t.status, t.duration))) :
    tally suites = tally suites' := by
  have hcount : ∀ p, countTests p (allTests suites) = countTests p (allTests suites') := by
    intro p
    have hcountP := h.countP_eq fun x => p x.1
    simp only [List.countP_map, Function.comp_def] at hcountP
    rw [countTests, countTests, hcountP]
  have hlength : (allTests suites).length = (allTests suites').length := by
    simpa using h.length_eq
  have hduration : sumSat ((allTests suites).map (·.duration)) =
      sumSat ((allTests suites').map (·.duration)) := by
    have hsum := (h.map fun x => x.2.toNat).sum_nat
    simp only [List.map_map, Function.comp_def] at hsum
    apply UInt64.toNat_inj.1
    simp only [toNat_sumSat, List.map_map, Function.comp_def, hsum]
  simp only [tally, hcount, hlength, hduration]

namespace Suites.SameTests

variable {suites suites' : List Suite}

theorem length_eq (h : SameTests suites suites') :
    (allTests suites).length = (allTests suites').length := by
  simpa using List.Perm.length_eq h

theorem tally_eq (h : SameTests suites suites') : Summary.tally suites = Summary.tally suites' := by
  have houtcomes := List.Perm.map (fun t : Test => (t.status, t.duration)) h
  rw [List.map_map, List.map_map] at houtcomes
  exact Summary.tally_eq_of_perm houtcomes

/-- Groups of two lists have the same tests if the lists have, one by one. -/
theorem grouped {listed listed' : List KeyedTest}
    (h : listed.map (·.2.withSlashes) = listed'.map (·.2.withSlashes)) :
    SameTests (Suites.grouped listed) (Suites.grouped listed') := by
  have hperm : ∀ l : List KeyedTest,
      ((allTests (Suites.grouped l)).map Test.withSlashes).Perm (l.map (·.2.withSlashes)) := by
    intro l
    have hmap := (allTests_grouped_perm l).map Test.withSlashes
    rwa [List.map_map] at hmap
  exact (hperm listed).trans (h ▸ (hperm listed').symm)

end Suites.SameTests

section Options

variable (options options' : Options)

theorem MochaEntry.withSlashes_test (e : MochaEntry) (status : Status) :
    (e.test status options).withSlashes = (e.test status options').withSlashes := by
  have hpath : ∀ options, (e.path options).map withSlashes = e.file.map withSlashes := by
    intro options
    simp [path, Function.comp_def]
  simp [test, Test.withSlashes, hpath]

theorem MochaReport.sameTests_suites (r : MochaReport) :
    Suites.SameTests (r.suites options) (r.suites options') := by
  rw [suites_grouped, suites_grouped]
  refine .grouped ?_
  simp only [listed, List.map_append, List.map_map, Function.comp_def, MochaEntry.keyed,
    MochaEntry.withSlashes_test options options']

theorem JestFile.withSlashes_path (f : JestFile) :
    withSlashes (f.path options) = withSlashes f.name :=
  Text.withSlashes_normalizePath _ _

theorem JestFile.map_withSlashes_tests (f : JestFile) :
    (f.tests options).map (·.2.withSlashes) = (f.tests options').map (·.2.withSlashes) := by
  have htest : ∀ a : JestAssertion, (a.test (f.path options)).withSlashes =
      (a.test (f.path options')).withSlashes := by
    intro a
    simp [JestAssertion.test, Test.withSlashes, withSlashes_path]
  have hfailure : ∀ message, (runFailure (f.path options) message).withSlashes =
      (runFailure (f.path options') message).withSlashes := by
    intro message
    simp [runFailure, Test.withSlashes, withSlashes_path]
  simp only [tests, List.map_append, List.map_map, Option.toList_map, Function.comp_def, htest,
    hfailure]

theorem JestReport.sameTests_suites (r : JestReport) :
    Suites.SameTests (r.suites options) (r.suites options') := by
  rw [suites_grouped, suites_grouped]
  refine .grouped ?_
  have hlisted : ∀ (f : JestFile) (options : Options),
      (f.listed options).map (·.2.withSlashes) = (f.tests options).map (·.2.withSlashes) := by
    intro f options
    rw [JestFile.listed_eq_map_tests, List.map_map]
    rfl
  simp only [listed, List.map_flatMap, hlisted, JestFile.map_withSlashes_tests options options']

end Options

/-! ## The same results -/

/-- Whether two results differ in paths only, in what is made of paths, and in the order of tests.
Results of unreadable outputs do not differ at all. -/
structure Report.SameButPaths (r r' : Report) : Prop where
  parseError_eq : r.metadata.parseError = r'.metadata.parseError
  eq_of_parseError : r.metadata.parseError = true → r = r'
  summary_eq : r.summary = r'.summary
  coverage_eq : r.coverage = r'.coverage
  length_eq : (allTests r.suites).length = (allTests r'.suites).length
  tests_perm : ((allTests r.suites).map Test.withSlashes).Perm
    ((allTests r'.suites).map Test.withSlashes)

theorem Report.SameButPaths.refl (r : Report) : r.SameButPaths r where
  parseError_eq := rfl
  eq_of_parseError _ := rfl
  summary_eq := rfl
  coverage_eq := rfl
  length_eq := rfl
  tests_perm := .refl _

theorem Report.SameButPaths.of_sameTests {r r' : Report}
    (h : Suites.SameTests r.suites r'.suites) (hflag : r.metadata.parseError = false)
    (hflag' : r'.metadata.parseError = false) (hsummary : r.summary = r'.summary)
    (hcoverage : r.coverage = r'.coverage) : r.SameButPaths r' where
  parseError_eq := hflag.trans hflag'.symm
  eq_of_parseError hbroken := by cases hflag.symm.trans hbroken
  summary_eq := hsummary
  coverage_eq := hcoverage
  length_eq := h.length_eq
  tests_perm := h

theorem MochaReport.sameButPaths_toReport (r : MochaReport) (environment : Environment)
    (options options' : Options) (now : Instant) :
    (r.toReport environment options now).SameButPaths
      (r.toReport environment options' now) := by
  have hsame := r.sameTests_suites options options'
  refine .of_sameTests hsame rfl rfl ?_ rfl
  simp only [toReport, summary, hsame.tally_eq]

theorem JestReport.sameButPaths_toReport (r : JestReport) (coverage : Option Coverage)
    (environment : Environment) (options options' : Options) (now : Instant) :
    (r.toReport coverage environment options now).SameButPaths
      (r.toReport coverage environment options' now) := by
  have hsame := r.sameTests_suites options options'
  refine .of_sameTests hsame rfl rfl ?_ rfl
  simp only [toReport, summary, hsame.tally_eq]

/-! ## Parsing -/

/-- When paths are normalized no path in a result has a backslash. For Mocha and Jest nothing else
depends on whether they are: with the option on and off both outputs are unreadable, or the results
have the same summary, the same coverage and the same tests, but for backslashes. -/
theorem Adapter.parse_normalizeFilePaths (a : Adapter) (overrides : Overrides) (output : String)
    (now : Instant) :
    ((overrides.apply a.defaults).normalizeFilePaths = true →
      (a.parse overrides output now).Slashed a.framework) ∧
    (a.framework ≠ .vitest →
      (a.parse { overrides with normalizeFilePaths := some true } output now).SameButPaths
        (a.parse { overrides with normalizeFilePaths := some false } output now)) := by
  cases hread : a.framework.read? output.toList with
  | error e =>
    refine ⟨fun _ => ?_, fun _ => ?_⟩
    · rw [parse_of_read?_error hread]
      exact Report.slashed_degraded a.framework a.environment output e now
    · rw [parse_of_read?_error hread, parse_of_read?_error hread]
      exact .refl _
  | ok written =>
    have hframework := Framework.framework_of_read? hread
    refine ⟨fun hon => ?_, fun hnot => ?_⟩
    · have hoptions : overrides.apply a.defaults =
          ⟨true, (overrides.apply a.defaults).includeConsoleOutput⟩ := by rw [← hon]
      rw [parse_of_read?_ok hread, hoptions, ← hframework]
      exact written.slashed_toReport a.environment now
    · rw [parse_of_read?_ok hread, parse_of_read?_ok hread]
      cases written with
      | mocha report => exact report.sameButPaths_toReport a.environment _ _ now
      | jest report coverage => exact report.sameButPaths_toReport coverage a.environment _ _ now
      | vitest events => exact absurd hframework.symm hnot

/-- A Jest report in which the path of a file is written in two ways. -/
def twoWaysOutput : String :=
  "\x7b\"numTotalTests\":2,\"testResults\":[" ++
  "\x7b\"name\":\"a\\\\b.js\",\"assertionResults\":[" ++
  "\x7b\"title\":\"x\",\"status\":\"passed\"\x7d]\x7d," ++
  "\x7b\"name\":\"a/b.js\",\"assertionResults\":[" ++
  "\x7b\"title\":\"y\",\"status\":\"failed\"\x7d]\x7d]\x7d"

/-- With the option on the two suites are one, and it has the tests of both. -/
theorem Adapter.parse_normalizeFilePaths_twoWays :
    (Adapter.parse ⟨.jest, {}, {}⟩ {} twoWaysOutput .epoch).Slashed .jest ∧
      (Adapter.parse ⟨.jest, {}, {}⟩ ⟨some true, none⟩ twoWaysOutput .epoch).SameButPaths
        (Adapter.parse ⟨.jest, {}, {}⟩ ⟨some false, none⟩ twoWaysOutput .epoch) ∧
      (Adapter.parse ⟨.jest, {}, {}⟩ ⟨some true, none⟩ twoWaysOutput .epoch).suites.map
        (fun s => (s.filePath, s.tests.map (·.name))) = [("a/b.js", ["x", "y"])] ∧
      (Adapter.parse ⟨.jest, {}, {}⟩ ⟨some false, none⟩ twoWaysOutput .epoch).suites.map
        (fun s => (s.filePath, s.tests.map (·.name))) =
          [("a\\b.js", ["x"]), ("a/b.js", ["y"])] := by
  have hchecked : (Framework.jest.read? twoWaysOutput.toList).toOption.any (fun written =>
      decide ((written.toReport {} ⟨true, true⟩ .epoch).suites.map
          (fun s => (s.filePath, s.tests.map (·.name))) = [("a/b.js", ["x", "y"])] ∧
        (written.toReport {} ⟨false, true⟩ .epoch).suites.map
          (fun s => (s.filePath, s.tests.map (·.name))) =
            [("a\\b.js", ["x"]), ("a/b.js", ["y"])])) = true := by
    unfold twoWaysOutput
    simp only [String.toList_append]
    decide +kernel
  obtain ⟨written, hread, hsuites⟩ := Framework.exists_of_any_read? hchecked
  obtain ⟨hon, hoff⟩ := of_decide_eq_true hsuites
  obtain ⟨hslashed, hsame⟩ := parse_normalizeFilePaths ⟨.jest, {}, {}⟩ {} twoWaysOutput .epoch
  refine ⟨hslashed rfl, hsame (by decide), ?_, ?_⟩
  · rw [parse_of_read?_ok (a := ⟨.jest, {}, {}⟩) hread]
    exact hon
  · rw [parse_of_read?_ok (a := ⟨.jest, {}, {}⟩) hread]
    exact hoff

end TestReport
