import TestReport.Proofs.Finite
import TestReport.Proofs.Reruns
import TestReport.Proofs.WellFormed
import TestReport.Proofs.Wire

/-!
# Which results survive being written

Results that adapters give are read back from the values as which they are written, except for one
thing. Jest reports say what a matcher found and what it expected as values of any kind, and these
are copied into the failure as they are, `null` included; a result that holds such a `null` comes
back without it. Mocha entries are read as records whose fields may be `null` for being absent, and
Vitest says everything in strings, so that their failures never hold a `null`.

`Adapter.ofJson?_toJson_parse_eq_iff` puts this together: reading back always succeeds, and gives
the result itself exactly when it is not a Jest failure with a `null` that was written.
-/

namespace TestReport

/-! ## Failures without a null -/

/-- A test whose failure, if there is one, holds no `null`. -/
def Test.HasNoNull (t : Test) : Prop :=
  ∀ f, t.error = some f → f.actual ≠ some .null ∧ f.expected ≠ some .null

theorem Json.present?_ne_null (v : Json) (key : String) : v.present? key ≠ some .null := by
  intro h
  simpa using (Option.filter_eq_some_iff.1 h).2

theorem MochaError.ofPlain_ne_null (v : Json) :
    (ofPlain v).actual ≠ some .null ∧ (ofPlain v).expected ≠ some .null :=
  ⟨v.present?_ne_null "actual", v.present?_ne_null "expected"⟩

theorem MochaEntry.hasNoNull_test (v : Json) (status : Status) (options : Options) :
    ((ofPlain v).test status options).HasNoNull := by
  intro f hf
  obtain ⟨-, rfl⟩ : status = .failed ∧ (ofPlain v).failure = f := by
    simpa [MochaEntry.test] using hf
  cases herr : (ofPlain v).err with
  | none => simp [MochaEntry.failure, herr]
  | some err =>
    obtain ⟨w, -, rfl⟩ : ∃ w, v.present? "err" = some w ∧ MochaError.ofPlain w = err :=
      Option.map_eq_some_iff.1 herr
    simpa [MochaEntry.failure, herr] using MochaError.ofPlain_ne_null w

theorem VitestOutcome.hasNoNull_test (o : VitestOutcome) (options : Options) :
    (o.test options).HasNoNull := by
  intro f hf
  obtain ⟨-, rfl⟩ : o.status.isFailure = true ∧ (o.error.getD {}).failure = f := by
    simpa [VitestOutcome.test] using hf
  simp [VitestError.failure]

/-! ## Runs -/

theorem MochaReport.exists_plain_of_mem_entries {members : List (String × Json)}
    {r : MochaReport} (h : ofMembers? members = .ok r) {e : MochaEntry × Status}
    (he : e ∈ r.entries) : ∃ v, e.1 = MochaEntry.ofPlain v := by
  unfold ofMembers? at h
  split at h
  · cases h
  · cases h
    simp only [entries, List.mem_append, List.mem_map] at he
    rcases he with (⟨_, ⟨v, -, rfl⟩, rfl⟩ | ⟨_, ⟨v, -, rfl⟩, rfl⟩) | ⟨_, ⟨v, -, rfl⟩, rfl⟩ <;>
      exact ⟨v, rfl⟩

theorem MochaReport.hasNoNull_suites {members : List (String × Json)} {r : MochaReport}
    (h : ofMembers? members = .ok r) (options : Options) :
    ∀ t ∈ allTests (r.suites options), t.HasNoNull := by
  refine List.foldlRecOn (motive := fun suites => ∀ t ∈ allTests suites, t.HasNoNull) r.entries _
    (by simp [allTests]) ?_
  intro suites hsuites e he
  obtain ⟨v, hv⟩ := exists_plain_of_mem_entries h he
  exact Suites.forall_mem_push hsuites (hv ▸ MochaEntry.hasNoNull_test v e.2 options) _ _

/-! ## Results -/

/-- The one namespace of a result is such as metadata keep them. -/
theorem Report.WellFormed.wellKeyed {framework : Framework} {environment : Environment}
    {r : Report} (h : r.WellFormed framework environment) : r.metadata.WellKeyed := by
  have hkeys := h.namespaces_eq
  have hname : framework.name ∉ metadataKeys := by
    cases framework <;> decide
  cases hparse : r.metadata.parseError with
  | true =>
    have hnil : r.metadata.namespaces = [] := by simpa [hparse] using hkeys
    exact { sorted := hnil ▸ List.Pairwise.nil, not_mem := by simp [hnil] }
  | false =>
    obtain ⟨n, hn, hkey⟩ : ∃ n, r.metadata.namespaces = [n] ∧ n.1 = framework.name := by
      simpa [hparse, List.map_eq_singleton_iff] using hkeys
    exact { sorted := hn ▸ List.pairwise_singleton .., not_mem := by simp [hn, hkey, hname] }

theorem Adapter.wellKeyed_parse (a : Adapter) (overrides : Overrides) (output : String)
    (now : Instant) : (a.parse overrides output now).metadata.WellKeyed :=
  (a.wellFormed_parse overrides output now).wellKeyed

theorem Coverage.hasFinitePercents_of_ofMap? {map : Json} {c : Coverage}
    (h : ofMap? map = some c) : c.HasFinitePercents := by
  unfold ofMap? at h
  split at h
  · cases h
  · cases h
    exact
      { statements := Metric.isFinite_percentage _ _
        branches := Metric.isFinite_percentage _ _
        functions := Metric.isFinite_percentage _ _
        lines := Metric.isFinite_percentage _ _ }

/-- Of all frameworks only Jest reports coverage, and its percentages are computed. -/
theorem Adapter.hasFinitePercents_parse (a : Adapter) (overrides : Overrides) (output : String)
    (now : Instant) : (a.parse overrides output now).HasFinitePercents := by
  intro c hc
  rcases a.parse_cases overrides output now with ⟨r, hdecode, hparse⟩ | ⟨e, -, hparse⟩
  · rw [hparse] at hc
    obtain ⟨framework, environment, defaults⟩ := a
    cases framework with
    | mocha =>
      obtain ⟨_, written, -, -, rfl⟩ := MochaReport.exists_of_decode hdecode
      cases hc
    | jest =>
      obtain ⟨_, written, -, -, rfl⟩ := JestReport.exists_of_decode hdecode
      obtain ⟨map, -, hmap⟩ := Option.bind_eq_some_iff.1 hc
      exact Coverage.hasFinitePercents_of_ofMap? hmap
    | vitest =>
      obtain ⟨-, rfl⟩ := VitestRun.exists_of_decode hdecode
      cases hc
  · rw [hparse] at hc
    cases hc

theorem Adapter.hasNoNull_parse {a : Adapter} (h : a.framework ≠ .jest) (overrides : Overrides)
    (output : String) (now : Instant) :
    ∀ t ∈ allTests (a.parse overrides output now).suites, t.HasNoNull := by
  rcases a.parse_cases overrides output now with ⟨r, hdecode, hparse⟩ | ⟨e, -, hparse⟩
  · rw [hparse]
    obtain ⟨framework, environment, defaults⟩ := a
    cases framework with
    | mocha =>
      obtain ⟨_, written, -, hwritten, rfl⟩ := MochaReport.exists_of_decode hdecode
      exact MochaReport.hasNoNull_suites hwritten _
    | jest => exact absurd rfl h
    | vitest =>
      obtain ⟨-, rfl⟩ := VitestRun.exists_of_decode hdecode
      exact VitestRun.forall_mem_foldl (fun o => o.hasNoNull_test _) _
  · rw [hparse]
    intro t ht f hf
    have htest : t = e.test a.framework := List.mem_singleton.1 ht
    rw [htest] at hf
    have hfailure : e.failure a.framework = f := Option.some.inj hf
    rw [← hfailure]
    exact ⟨nofun, nofun⟩

/-- What comes back of the result of an output, and when it is that result: always, unless the
adapter is that of Jest and a failure holds a `null` as what was found or expected. -/
theorem Adapter.ofJson?_toJson_parse_eq_iff (a : Adapter) (overrides : Overrides)
    (output : String) (now : Instant) :
    let r := a.parse overrides output now
    Report.ofJson? r.toJson = .ok r.withoutNulls ∧
      (Report.ofJson? r.toJson = .ok r ↔
        (a.framework = .jest → ∀ t ∈ allTests r.suites, ∀ f, t.error = some f →
          f.actual ≠ some .null ∧ f.expected ≠ some .null)) := by
  intro r
  have hback : Report.ofJson? r.toJson = .ok r.withoutNulls :=
    Report.ofJson?_toJson (a.wellKeyed_parse overrides output now)
      (a.hasFinitePercents_parse overrides output now)
  refine ⟨hback, ?_⟩
  rw [hback, Except.ok.injEq, Report.withoutNulls_eq_iff]
  constructor
  · exact fun h _ => h
  · intro h
    by_cases hjest : a.framework = .jest
    · exact h hjest
    · exact Adapter.hasNoNull_parse hjest overrides output now

/-- A Jest report in which a matcher found `null` where it expected a number. -/
def nullMatcherOutput : String :=
  "\x7b\"numTotalTests\":1,\"testResults\":[\x7b\"assertionResults\":[" ++
  "\x7b\"title\":\"t\",\"status\":\"failed\",\"failureDetails\":[" ++
  "\x7b\"matcherResult\":\x7b\"actual\":null,\"expected\":1\x7d\x7d]\x7d]\x7d]\x7d"

/-- The result of that report does not come back as it was. -/
theorem Adapter.ofJson?_toJson_parse_nullMatcherOutput :
    let r := (⟨.jest, {}, {}⟩ : Adapter).parse {} nullMatcherOutput .epoch
    Report.ofJson? r.toJson ≠ .ok r := by
  intro r hback
  have hnull : (allTests r.suites).any fun t => t.error.any (·.actual = some .null) := by
    decide +kernel
  obtain ⟨t, ht, hactual⟩ := List.any_eq_true.1 hnull
  obtain ⟨f, hf, hf'⟩ := (Option.any_eq_true _ _).1 hactual
  have hback' : r.withoutNulls = r :=
    Except.ok.inj ((Report.ofJson?_toJson (Adapter.wellKeyed_parse _ _ _ _)
      (Adapter.hasFinitePercents_parse _ _ _ _)).symm.trans hback)
  exact (Report.withoutNulls_eq_iff.1 hback' t ht f hf).1 (of_decide_eq_true hf')

end TestReport
