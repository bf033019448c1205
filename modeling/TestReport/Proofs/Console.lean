import TestReport.Proofs.Decoded
import TestReport.Proofs.Tokens

/-!
# Captured console output

Whether captured console output is kept is an option of a parse. It decides about one key of one
namespace: two parses that differ in it have the same result, `console` in the namespace of the
framework aside (`Adapter.parse_console`). The key is never there when the output is not to be kept.
When it is, the key is there if the report has any console output at all, and then it has all of it,
in the order of the report.

Jest keeps console output with its files, and Vitest among its events, where it is collected in the
same pass as the suites. So for Vitest it is an equation about runs that is carried through the
events: keeping the console changes nothing else (`VitestRun.foldl_apply_console`).
-/

namespace TestReport

/-! ## Console output in reports -/

/-- A piece of console output of a file with a path, as a value. What the piece does not tell is
null. -/
def JestConsoleEntry.value (path : String) (e : JestConsoleEntry) : Json :=
  .obj [("file", .str path), ("message", e.message.getD .null),
    ("origin", e.origin.elim .null .str), ("type", e.kind.elim .null .str)]

/-- The console output that an event holds, if it holds any. -/
def VitestEvent.consoleValue? (normalize : Bool) : VitestEvent → Option Json
  | consoleLog file content =>
    some (.obj [("content", .str content), ("file", .str (Text.normalizePath normalize file))])
  | _ => none

/-- All console output in a report, in the order of the report. -/
def WrittenReport.console (normalize : Bool) : WrittenReport → List Json
  | mocha _ => []
  | jest report _ =>
    report.files.flatMap fun f => f.console.map (·.value (Text.normalizePath normalize f.name))
  | vitest events => events.filterMap (·.consoleValue? normalize)

/-- The framework that wrote a report. -/
def WrittenReport.framework : WrittenReport → Framework
  | mocha _ => .mocha
  | jest .. => .jest
  | vitest _ => .vitest

theorem Framework.framework_of_read? {f : Framework} {output : List Char} {written : WrittenReport}
    (h : f.read? output = .ok written) : written.framework = f := by
  cases f with
  | mocha =>
    obtain ⟨members, -, h⟩ := Json.bind_eq_ok.1 h
    obtain ⟨report, -, h⟩ := Json.bind_eq_ok.1 h
    cases h
    rfl
  | jest =>
    obtain ⟨members, -, h⟩ := Json.bind_eq_ok.1 h
    obtain ⟨report, -, h⟩ := Json.bind_eq_ok.1 h
    cases h
    rfl
  | vitest =>
    rw [read?] at h
    split at h
    · split at h <;> cases h
    · cases h
      rfl

/-- The console output in the report of an output. What cannot be read has none. -/
def Adapter.console (a : Adapter) (paths : Option Bool) (output : String) : List Json :=
  match a.framework.read? output.toList with
  | .ok written => written.console (paths.getD a.defaults.normalizeFilePaths)
  | .error _ => []

section Console

variable {a : Adapter} {output : String} (paths : Option Bool)

theorem Adapter.console_of_read?_ok {written : WrittenReport}
    (h : a.framework.read? output.toList = .ok written) :
    a.console paths output = written.console (paths.getD a.defaults.normalizeFilePaths) := by
  rw [console, h]

theorem Adapter.console_of_read?_error {e : ExtractError}
    (h : a.framework.read? output.toList = .error e) : a.console paths output = [] := by
  rw [console, h]

end Console

/-! ## Console output in results -/

/-- A value without a key. -/
def Json.withoutKey (key : String) : Json → Json
  | obj members => obj (members.filter (·.1 != key))
  | v => v

namespace Report

/-- A result without the console output in the namespace of a framework. -/
def withoutConsole (r : Report) (framework : Framework) : Report :=
  { r with
    metadata.namespaces := r.metadata.namespaces.map fun n =>
      if n.1 = framework.name then (n.1, n.2.withoutKey "console") else n }

/-- The console output in the namespace of a framework. -/
def console? (r : Report) (framework : Framework) : Option Json :=
  (r.metadata.namespace? framework.name).bind (·.get? "console")

/-- A result with console output and other details in the namespace of a framework. -/
def withDetails (r : Report) (framework : Framework) (others : List (String × Json))
    (console : List Json) : Report :=
  { r with
    metadata.namespaces :=
      [(framework.name, .obj (optionalMember "console"
        (if console.isEmpty then none else some (.arr console)) ++ others))] }

variable (r : Report) (framework : Framework) {others : List (String × Json)}
  (hothers : ∀ m ∈ others, m.1 ≠ "console") (console : List Json)

include hothers

theorem withoutConsole_withDetails :
    (r.withDetails framework others console).withoutConsole framework =
      r.withDetails framework others [] := by
  have hfilter : others.filter (·.1 != "console") = others :=
    List.filter_eq_self.2 fun m hm => bne_iff_ne.2 (hothers m hm)
  cases console <;> simp [withoutConsole, withDetails, Json.withoutKey, optionalMember, hfilter]

theorem console?_withDetails :
    (r.withDetails framework others console).console? framework =
      if console.isEmpty then none else some (.arr console) := by
  have hnone : others.lookup "console" = none :=
    List.lookup_eq_none_iff.2 fun m hm => bne_iff_ne.2 (hothers m hm).symm
  cases console <;>
    simp [console?, withDetails, Metadata.namespace?, Json.get?, Json.members?, optionalMember,
      hnone]

end Report

/-! ## Keeping console output -/

/-- Taking the console output of an event into account changes nothing else. -/
theorem VitestRun.apply_console (normalize keep : Bool) (run : VitestRun) (console : List Json)
    (event : VitestEvent) :
    apply ⟨normalize, keep⟩ { run with console := console } event =
      { apply ⟨normalize, false⟩ run event with
        console := console ++ if keep then (event.consoleValue? normalize).toList else [] } := by
  have hplace : ∀ (outcome : VitestOutcome) (suites : List Suite),
      outcome.place ⟨normalize, true⟩ suites = outcome.place ⟨normalize, false⟩ suites :=
    fun _ _ => rfl
  cases keep <;> cases event <;> simp [apply, VitestEvent.consoleValue?, hplace]

theorem VitestRun.foldl_apply_console (normalize keep : Bool) (events : List VitestEvent)
    (run : VitestRun) (console : List Json) :
    events.foldl (apply ⟨normalize, keep⟩) { run with console := console } =
      { events.foldl (apply ⟨normalize, false⟩) run with
        console := console ++
          if keep then events.filterMap (·.consoleValue? normalize) else [] } := by
  induction events generalizing run console with
  | nil => cases keep <;> simp
  | cons event events ih =>
    rw [List.foldl_cons, apply_console, ih, List.foldl_cons, List.append_assoc]
    cases keep <;> cases hvalue : event.consoleValue? normalize <;> simp [hvalue]

theorem VitestRun.toReport_withConsole (run : VitestRun) (console : List Json)
    (environment : Environment) (now : Instant) :
    toReport { run with console := console } environment now =
      (run.toReport environment now).withDetails .vitest
        ([("events", Json.ofNat run.eventCount)] ++
          optionalMember "runFinished" (run.totals.map totalsJson)) console := by
  unfold toReport details Report.withDetails
  rw [← List.append_assoc]
  rfl

theorem JestFile.consoleValues_eq (f : JestFile) (options : Options) :
    f.consoleValues options =
      f.console.map (·.value (Text.normalizePath options.normalizeFilePaths f.name)) := by
  refine List.map_congr_left fun e _ => ?_
  rw [JestConsoleEntry.value]
  cases e.origin <;> cases e.kind <;> rfl

/-- What the console output of a report has to do with its result: it is kept among the details, or
it is not. -/
theorem WrittenReport.exists_toReport_eq (written : WrittenReport) (environment : Environment)
    (normalize : Bool) (now : Instant) :
    ∃ (r : Report) (others : List (String × Json)), (∀ m ∈ others, m.1 ≠ "console") ∧
      ∀ keep : Bool, written.toReport environment ⟨normalize, keep⟩ now =
        r.withDetails written.framework others
          (if keep then written.console normalize else []) := by
  cases written with
  | mocha report =>
    refine ⟨report.toReport environment { normalizeFilePaths := normalize } now,
      [("stats", report.rawStats)], by simp, fun keep => ?_⟩
    cases keep <;> rfl
  | jest report coverage =>
    let quiet : Options := ⟨normalize, false⟩
    refine ⟨report.toReport coverage environment quiet now,
      (report.details quiet).members?.getD [], ?_, fun keep => ?_⟩
    · simp [JestReport.details, JestReport.consoleValues, quiet, Json.members?, optionalMember]
    · have hconsole : (WrittenReport.jest report coverage).console normalize =
          report.files.flatMap (·.consoleValues ⟨normalize, true⟩) := by
        simp only [WrittenReport.console, JestFile.consoleValues_eq]
      rw [hconsole]
      cases keep <;> rfl
  | vitest events =>
    let quiet := events.foldl (VitestRun.apply ⟨normalize, false⟩) {}
    refine ⟨quiet.toReport environment now,
      [("events", Json.ofNat quiet.eventCount)] ++
        optionalMember "runFinished" (quiet.totals.map VitestRun.totalsJson), ?_, fun keep => ?_⟩
    · cases quiet.totals <;> simp [optionalMember]
    · have hrun := VitestRun.foldl_apply_console normalize keep events {} []
      rw [List.nil_append] at hrun
      exact (congrArg (fun run => run.toReport environment now) hrun).trans
        (VitestRun.toReport_withConsole quiet _ environment now)

/-! ## Parsing -/

/-- Two parses that differ in whether console output is kept differ in the key for it alone. Without
it the key is not there; with it the key is there exactly when the report has console output, and
has all of it in the order of the report. -/
theorem Adapter.parse_console (a : Adapter) (paths : Option Bool) (output : String)
    (now : Instant) :
    (a.parse ⟨paths, some true⟩ output now).withoutConsole a.framework =
      (a.parse ⟨paths, some false⟩ output now).withoutConsole a.framework ∧
    (a.parse ⟨paths, some false⟩ output now).console? a.framework = none ∧
    ∀ v, (a.parse ⟨paths, some true⟩ output now).console? a.framework = some v ↔
      a.console paths output ≠ [] ∧ v = .arr (a.console paths output) := by
  cases hread : a.framework.read? output.toList with
  | error e =>
    rw [parse_of_read?_error hread, parse_of_read?_error hread, console_of_read?_error paths hread]
    exact ⟨rfl, rfl, fun v => ⟨nofun, fun h => absurd rfl h.1⟩⟩
  | ok written =>
    obtain ⟨r, others, hothers, heq⟩ := written.exists_toReport_eq a.environment
      (paths.getD a.defaults.normalizeFilePaths) now
    have hparse : ∀ keep, a.parse ⟨paths, some keep⟩ output now =
        r.withDetails a.framework others (if keep then a.console paths output else []) := by
      intro keep
      rw [parse_of_read?_ok hread, ← Framework.framework_of_read? hread,
        console_of_read?_ok paths hread]
      exact heq keep
    rw [hparse, hparse]
    refine ⟨?_, ?_, fun v => ?_⟩
    · rw [Report.withoutConsole_withDetails r _ hothers,
        Report.withoutConsole_withDetails r _ hothers]
    · rw [Report.console?_withDetails r _ hothers]
      rfl
    · rw [Report.console?_withDetails r _ hothers, if_pos rfl]
      cases a.console paths output with
      | nil => exact ⟨nofun, fun h => absurd rfl h.1⟩
      | cons value values =>
        exact ⟨fun h => ⟨List.cons_ne_nil _ _, (Option.some.inj h).symm⟩,
          fun h => congrArg some h.2.symm⟩

/-- A Jest report of three files, the second of which has no console output. -/
def chattyOutput : String :=
  "\x7b\"numTotalTests\":0,\"testResults\":[" ++
  "\x7b\"name\":\"a.js\",\"console\":[" ++
  "\x7b\"message\":\"hi\",\"type\":\"log\",\"origin\":\"a.js:1\"\x7d," ++
  "\x7b\"type\":\"warn\"\x7d]\x7d," ++
  "\x7b\"name\":\"b.js\"\x7d," ++
  "\x7b\"name\":\"c\\\\d.js\",\"console\":[\x7b\"message\":[]\x7d]\x7d]\x7d"

/-- A Vitest stream with console output on both sides of a test. -/
def chattyStream : String :=
  "\x7b\"type\":\"console-log\",\"file\":\"a.ts\",\"content\":\"hi\"\x7d\n" ++
  "\x7b\"type\":\"test-finished\",\"file\":\"a.ts\",\"name\":\"t\",\"state\":\"pass\"\x7d\n" ++
  "\x7b\"type\":\"console-log\",\"file\":\"b.ts\",\"content\":\"\"\x7d"

/-- What is said in `chattyOutput`. -/
def chattyFiles : List Json :=
  [.obj [("file", .str "a.js"), ("message", .str "hi"), ("origin", .str "a.js:1"),
      ("type", .str "log")],
    .obj [("file", .str "a.js"), ("message", .null), ("origin", .null), ("type", .str "warn")],
    .obj [("file", .str "c/d.js"), ("message", .arr []), ("origin", .null), ("type", .null)]]

/-- What is said in `chattyStream`. -/
def chattyEvents : List Json :=
  [.obj [("content", .str "hi"), ("file", .str "a.ts")],
    .obj [("content", .str ""), ("file", .str "b.ts")]]

/-- Both reports have all of their console output in their results, or none of it. -/
theorem Adapter.parse_console_chatty :
    let jest : Adapter := ⟨.jest, {}, {}⟩
    let vitest : Adapter := ⟨.vitest, {}, {}⟩
    (jest.parse ⟨none, some true⟩ chattyOutput .epoch).console? .jest = some (.arr chattyFiles) ∧
      (jest.parse ⟨none, some false⟩ chattyOutput .epoch).console? .jest = none ∧
      (vitest.parse ⟨none, some true⟩ chattyStream .epoch).console? .vitest =
        some (.arr chattyEvents) ∧
      (vitest.parse ⟨none, some false⟩ chattyStream .epoch).console? .vitest = none := by
  intro jest vitest
  have hfiles : (Framework.jest.read? chattyOutput.toList).toOption.any
      (fun written => decide (written.console true = chattyFiles)) = true := by
    unfold chattyOutput
    simp only [String.toList_append]
    decide +kernel
  have hevents : (Framework.vitest.read? chattyStream.toList).toOption.any
      (fun written => decide (written.console true = chattyEvents)) = true := by
    unfold chattyStream
    simp only [String.toList_append]
    decide +kernel
  obtain ⟨written, hread, hsaid⟩ := Framework.exists_of_any_read? hfiles
  obtain ⟨stream, hstream, hheard⟩ := Framework.exists_of_any_read? hevents
  have hjest : jest.console none chattyOutput = chattyFiles :=
    (console_of_read?_ok (a := jest) none hread).trans (of_decide_eq_true hsaid)
  have hvitest : vitest.console none chattyStream = chattyEvents :=
    (console_of_read?_ok (a := vitest) none hstream).trans (of_decide_eq_true hheard)
  obtain ⟨-, hquiet, hkept⟩ := parse_console jest none chattyOutput .epoch
  obtain ⟨-, hquiet', hkept'⟩ := parse_console vitest none chattyStream .epoch
  rw [hjest] at hkept
  rw [hvitest] at hkept'
  exact ⟨(hkept _).2 ⟨List.cons_ne_nil _ _, rfl⟩, hquiet, (hkept' _).2 ⟨List.cons_ne_nil _ _, rfl⟩,
    hquiet'⟩

end TestReport
