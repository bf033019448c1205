import TestReport.Json.Plain

/-!
# Options of a parse

`Options` are in force for one parse. `Overrides` leave each of them open or set it; a later layer
of overrides wins over an earlier one (`Overrides.merge`), and what stays open falls through to the
defaults of the parser (`Overrides.apply`). Overrides are also read out of values: a field that is
missing or `null` stays open.
-/

namespace TestReport

/-- Options in force for one parse. -/
structure Options where
  /-- Whether `\` in paths becomes `/`. -/
  normalizeFilePaths : Bool := true
  /-- Whether captured console output is kept in the framework's part of the metadata. -/
  includeConsoleOutput : Bool := true
deriving DecidableEq, Repr

/-- Options that may be left open. -/
structure Overrides where
  normalizeFilePaths : Option Bool := none
  includeConsoleOutput : Option Bool := none
deriving DecidableEq, Repr

namespace Overrides

/-- The options in force when what is open falls through to defaults. -/
def apply (o : Overrides) (defaults : Options) : Options where
  normalizeFilePaths := o.normalizeFilePaths.getD defaults.normalizeFilePaths
  includeConsoleOutput := o.includeConsoleOutput.getD defaults.includeConsoleOutput

/-- One layer of overrides below another: what the upper layer sets wins. -/
def merge (lower upper : Overrides) : Overrides where
  normalizeFilePaths := upper.normalizeFilePaths.or lower.normalizeFilePaths
  includeConsoleOutput := upper.includeConsoleOutput.or lower.includeConsoleOutput

/-- Applying merged layers is applying the upper one to what the lower one makes of the defaults. -/
theorem apply_merge (lower upper : Overrides) (defaults : Options) :
    (lower.merge upper).apply defaults = upper.apply (lower.apply defaults) := by
  rcases lower with ⟨a, b⟩
  rcases upper with ⟨c, d⟩
  cases c <;> cases d <;> rfl

/-- Merging is associative. -/
theorem merge_assoc (a b c : Overrides) : (a.merge b).merge c = a.merge (b.merge c) := by
  simp [merge, Option.or_assoc]

end Overrides

/-! ## Overrides as values -/

open Json (Shape Mismatch)

/-- The shape of overrides. -/
def Json.Shape.overrides : Shape :=
  record { title := "struct ParseOverrides" }
    [field "normalize_file_paths" optionalFlag, field "include_console_output" optionalFlag]

/-- The overrides that a plain value holds. -/
def Overrides.ofPlain (v : Json) : Overrides where
  normalizeFilePaths := v.flagAt? "normalize_file_paths"
  includeConsoleOutput := v.flagAt? "include_console_output"

/-- The overrides that a value reads as. -/
def Overrides.ofJson? (v : Json) : Except Mismatch Overrides :=
  (Shape.overrides.read v).map Overrides.ofPlain

end TestReport
