import TestReport.Degraded
import TestReport.Jest
import TestReport.Mocha
import TestReport.Vitest

/-!
# Adapters and their registry

An adapter reads the outputs of one framework, with defaults for the options and a description of
the host. Parsing never fails: where no report can be decoded, the result is a degraded one.

A registry holds at most one adapter for each framework. It selects the adapter for an output by the
framework that is declared, or else by the one that seems to have written it, or else that of Mocha,
whose degraded result then describes an output that nobody knows.
-/

namespace TestReport

/-! ## Adapters -/

/-- The report in an output of a framework. -/
def Framework.decode (framework : Framework) (environment : Environment) (options : Options)
    (output : String) (now : Instant) : Except ExtractError Report :=
  match framework with
  | .mocha => MochaReport.decode environment options output now
  | .jest => JestReport.decode environment options output now
  | .vitest => VitestRun.decode environment options output now

/-- The framework to read an output as, when one may have been declared. -/
def Framework.choose (output : String) (declared : Option Framework) : Framework :=
  (declared.or (sniff output.toList)).getD .mocha

/-- A reader of the outputs of one framework. -/
structure Adapter where
  framework : Framework
  environment : Environment := {}
  defaults : Options := {}
deriving DecidableEq

namespace Adapter

/-- The report in an output, with options in force. -/
def decode (a : Adapter) (options : Options) (output : String) (now : Instant) :
    Except ExtractError Report :=
  a.framework.decode a.environment options output now

/-- The result of an output, whether or not it holds a report. -/
def parse (a : Adapter) (overrides : Overrides) (output : String) (now : Instant) : Report :=
  match a.decode (overrides.apply a.defaults) output now with
  | .ok report => report
  | .error e => .degraded a.framework a.environment output e now

end Adapter

/-! ## Registries -/

/-- The adapters that are there, by framework. -/
structure Registry where
  get? : Framework → Option Adapter

namespace Registry

/-- The registry without adapters. -/
def empty : Registry := ⟨fun _ => none⟩

/-- A registry with an adapter put in, in place of one for the same framework. -/
def register (r : Registry) (a : Adapter) : Registry :=
  ⟨fun f => if f = a.framework then some a else r.get? f⟩

/-- The registry of all frameworks, whose adapters share host and defaults. -/
def builtin (environment : Environment) (defaults : Options) : Registry :=
  ⟨fun f => some ⟨f, environment, defaults⟩⟩

/-- The frameworks of a registry in the order of their names. -/
def frameworks (r : Registry) : List Framework :=
  (Framework.all.filter fun f => (r.get? f).isSome).mergeSort fun f g => f.name ≤ g.name

/-- The adapter for an output. -/
def select (r : Registry) (output : String) (declared : Option Framework) : Option Adapter :=
  r.get? (Framework.choose output declared)

theorem get?_register_self (r : Registry) (a : Adapter) :
    (r.register a).get? a.framework = some a := by
  simp [register]

theorem get?_register_of_ne (r : Registry) {a : Adapter} {f : Framework} (h : f ≠ a.framework) :
    (r.register a).get? f = r.get? f := by
  simp [register, h]

/-- The registry of all frameworks is what registering them one by one gives. -/
theorem builtin_eq_register (environment : Environment) (defaults : Options) :
    builtin environment defaults =
      ((empty.register ⟨.mocha, environment, defaults⟩).register
        ⟨.jest, environment, defaults⟩).register ⟨.vitest, environment, defaults⟩ := by
  simp only [builtin, register, empty, Registry.mk.injEq]
  funext f
  cases f <;> rfl

/-- The registry of all frameworks has an adapter for every output. -/
theorem select_builtin (environment : Environment) (defaults : Options) (output : String)
    (declared : Option Framework) :
    (builtin environment defaults).select output declared =
      some ⟨Framework.choose output declared, environment, defaults⟩ := rfl

end Registry

end TestReport
