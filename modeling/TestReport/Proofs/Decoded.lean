import TestReport.Registry

/-!
# What a decoded report is

Decoding goes through several readers that may fail, and then builds the result by functions that
cannot. The lemmas here take a successful decoding apart once: the members found, the report they
hold, and the result built out of it (`toReport`). What is proved of `toReport` is thereby proved of
every result.

`Framework.decode_eq_map_read?` says the same of all frameworks at once, and of failures too: what
is read in an output depends on the output alone, while host, options and clock come in where the
result is built.
-/

namespace TestReport

theorem MochaReport.exists_of_decode {environment : Environment} {options : Options}
    {output : String} {now : Instant} {r : Report}
    (h : MochaReport.decode environment options output now = .ok r) :
    ∃ members written, findObject output.toList "mocha" "stats" = .ok members ∧
      MochaReport.ofMembers? members = .ok written ∧
      r = written.toReport environment options now := by
  unfold MochaReport.decode at h
  cases hmembers : findObject output.toList "mocha" "stats" with
  | error e => rw [hmembers] at h; cases h
  | ok members =>
    rw [hmembers] at h
    cases hwritten : MochaReport.ofMembers? members with
    | error e => simp only [bind, Except.bind, hwritten] at h; cases h
    | ok written =>
      simp only [bind, Except.bind, hwritten, pure, Except.pure] at h
      exact ⟨members, written, rfl, hwritten, (Except.ok.inj h).symm⟩

theorem JestReport.exists_of_decode {environment : Environment} {options : Options}
    {output : String} {now : Instant} {r : Report}
    (h : JestReport.decode environment options output now = .ok r) :
    ∃ members written, locateReport output.toList = .ok members ∧
      JestReport.ofMembers? members = .ok written ∧
      r = written.toReport ((members.lookup "coverageMap").bind Coverage.ofMap?) environment options
        now := by
  unfold JestReport.decode at h
  cases hmembers : locateReport output.toList with
  | error e => rw [hmembers] at h; cases h
  | ok members =>
    rw [hmembers] at h
    cases hwritten : JestReport.ofMembers? members with
    | error e => simp only [bind, Except.bind, hwritten] at h; cases h
    | ok written =>
      simp only [bind, Except.bind, hwritten, pure, Except.pure] at h
      exact ⟨members, written, rfl, hwritten, (Except.ok.inj h).symm⟩

theorem Adapter.decode_jest_of_ofMembers? {output : String} {members : List (String × Json)}
    {written : JestReport} (hfound : locateReport output.toList = .ok members)
    (hwritten : JestReport.ofMembers? members = .ok written) (environment : Environment)
    (defaults options : Options) (now : Instant) :
    Adapter.decode ⟨.jest, environment, defaults⟩ options output now =
      .ok (written.toReport ((members.lookup "coverageMap").bind Coverage.ofMap?) environment
        options now) := by
  unfold Adapter.decode Framework.decode JestReport.decode
  simp only [hfound, hwritten, bind, Except.bind, pure, Except.pure]

/-- What a check of the report in an output tells. -/
theorem JestReport.exists_of_any {output : String} {p : JestReport → Bool}
    (h : (locateReport output.toList >>= JestReport.ofMembers?).toOption.any p = true) :
    ∃ members written, locateReport output.toList = .ok members ∧
      JestReport.ofMembers? members = .ok written ∧ p written = true := by
  cases hfound : locateReport output.toList with
  | error e => rw [hfound] at h; cases h
  | ok members =>
    rw [hfound] at h
    change (JestReport.ofMembers? members).toOption.any p = true at h
    cases hwritten : JestReport.ofMembers? members with
    | error e => rw [hwritten] at h; cases h
    | ok written =>
      rw [hwritten] at h
      exact ⟨members, written, rfl, hwritten, h⟩

/-- A stream that decodes has events, and its result is that of the run after all of them. -/
theorem VitestRun.exists_of_decode {environment : Environment} {options : Options}
    {output : String} {now : Instant} {r : Report}
    (h : VitestRun.decode environment options output now = .ok r) :
    VitestRun.events output.toList ≠ [] ∧
      r = ((VitestRun.events output.toList).foldl (VitestRun.apply options) {}).toReport environment
        now := by
  unfold VitestRun.decode at h
  split at h
  · split at h <;> cases h
  · next hne => exact ⟨hne, (Except.ok.inj h).symm⟩

/-! ## The report as written -/

/-- What the three frameworks write. -/
inductive WrittenReport
  | mocha (report : MochaReport)
  | jest (report : JestReport) (coverage : Option Coverage)
  | vitest (events : List VitestEvent)

/-- The result of what a framework wrote. -/
def WrittenReport.toReport (environment : Environment) (options : Options) (now : Instant) :
    WrittenReport → Report
  | mocha report => report.toReport environment options now
  | jest report coverage => report.toReport coverage environment options now
  | vitest events => (events.foldl (VitestRun.apply options) {}).toReport environment now

/-- What a framework wrote into an output, or why nothing can be read there. -/
def Framework.read? : Framework → List Char → Except ExtractError WrittenReport
  | mocha, output => do
    let members ← findObject output "mocha" "stats"
    return .mocha (← MochaReport.ofMembers? members)
  | jest, output => do
    let members ← locateReport output
    let report ← JestReport.ofMembers? members
    return .jest report ((members.lookup "coverageMap").bind Coverage.ofMap?)
  | vitest, output =>
    match VitestRun.events output with
    | [] =>
      match (VitestRun.eventLines output).findSome? VitestRun.brokenEvent? with
      | some reason => .error (.undecodable "vitest" reason)
      | none => .error (.noPayload "vitest" "type")
    | events => .ok (.vitest events)

/-- Decoding is reading, where neither host nor options nor clock play a part, and then building. -/
theorem Framework.decode_eq_map_read? (framework : Framework) (environment : Environment)
    (options : Options) (output : String) (now : Instant) :
    framework.decode environment options output now =
      (framework.read? output.toList).map (·.toReport environment options now) := by
  cases framework with
  | mocha =>
    rw [decode, MochaReport.decode, read?]
    cases findObject output.toList "mocha" "stats" with
    | error e => rfl
    | ok members =>
      simp only [bind, Except.bind]
      cases MochaReport.ofMembers? members <;> rfl
  | jest =>
    rw [decode, JestReport.decode, read?]
    cases locateReport output.toList with
    | error e => rfl
    | ok members =>
      simp only [bind, Except.bind]
      cases JestReport.ofMembers? members <;> rfl
  | vitest =>
    rw [decode, VitestRun.decode, read?]
    cases VitestRun.events output.toList with
    | nil => cases (VitestRun.eventLines output.toList).findSome? VitestRun.brokenEvent? <;> rfl
    | cons event events => rfl

/-- What a check of the reading of an output tells. -/
theorem Framework.exists_of_any_read? {framework : Framework} {output : List Char}
    {p : WrittenReport → Bool} (h : (framework.read? output).toOption.any p = true) :
    ∃ written, framework.read? output = .ok written ∧ p written = true := by
  cases hread : framework.read? output with
  | ok written =>
    rw [hread] at h
    exact ⟨written, rfl, h⟩
  | error e =>
    rw [hread] at h
    cases h

/-- What a check of a decoded report tells. -/
theorem Adapter.exists_of_any_decode {a : Adapter} {options : Options} {output : String}
    {now : Instant} {p : Report → Bool} (h : (a.decode options output now).toOption.any p = true) :
    ∃ r, a.decode options output now = .ok r ∧ p r = true := by
  cases hdecode : a.decode options output now with
  | ok r =>
    rw [hdecode] at h
    exact ⟨r, rfl, h⟩
  | error e =>
    rw [hdecode] at h
    cases h

/-! ## Parsing -/

/-- A parse gives the decoded report, or the degraded result when there is none. -/
theorem Adapter.parse_cases (a : Adapter) (overrides : Overrides) (output : String)
    (now : Instant) :
    (∃ r, a.decode (overrides.apply a.defaults) output now = .ok r ∧
        a.parse overrides output now = r) ∨
      ∃ e, a.decode (overrides.apply a.defaults) output now = .error e ∧
        a.parse overrides output now = .degraded a.framework a.environment output e now := by
  unfold Adapter.parse
  cases hdecode : a.decode (overrides.apply a.defaults) output now with
  | ok r => exact Or.inl ⟨r, rfl, rfl⟩
  | error e => exact Or.inr ⟨e, rfl, rfl⟩

/-- A parse gives the result of what is read. -/
theorem Adapter.parse_of_read?_ok {a : Adapter} {output : String} {written : WrittenReport}
    (h : a.framework.read? output.toList = .ok written) (overrides : Overrides) (now : Instant) :
    a.parse overrides output now =
      written.toReport a.environment (overrides.apply a.defaults) now := by
  unfold Adapter.parse Adapter.decode
  rw [Framework.decode_eq_map_read?, h]
  rfl

/-- A parse gives a degraded result when nothing can be read. -/
theorem Adapter.parse_of_read?_error {a : Adapter} {output : String} {e : ExtractError}
    (h : a.framework.read? output.toList = .error e) (overrides : Overrides) (now : Instant) :
    a.parse overrides output now = .degraded a.framework a.environment output e now := by
  unfold Adapter.parse Adapter.decode
  rw [Framework.decode_eq_map_read?, h]
  rfl

end TestReport
