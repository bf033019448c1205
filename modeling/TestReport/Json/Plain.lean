import TestReport.Json.Shape

/-!
# Records in plain form

What a record builds out of its plain form it looks up by key. In plain form a field either is
absent or has the kind that its shape asks for, so looking up never fails: it gives the field, or
the default that the record has for it.
-/

namespace TestReport.Json

/-! ## Shapes of fields -/

/-- A field of a given shape. -/
def field (name : String) (shape : Shape) : Slot × Shape :=
  ({ name := name }, shape)

namespace Shape

/-- A flag that may be missing. -/
def optionalFlag : Shape := optional flag

/-- An optional string. -/
def optionalString : Shape := optional string

/-- A count of tests. -/
def count : Shape := word64 "usize"

/-- Milliseconds and counts of coverage. -/
def words : Shape := word64 "u64"

/-- A count that may be missing. -/
def optionalCount : Shape := optional count

/-- A duration that may be missing. -/
def optionalFloat : Shape := optional float

end Shape

/-! ## Fields of plain values -/

/-- The string at a key, or a default. -/
def stringAt (v : Json) (key default : String) : String :=
  ((v.get? key).bind str?).getD default

/-- The string at a key, if there is one. -/
def stringAt? (v : Json) (key : String) : Option String :=
  (v.get? key).bind str?

/-- The value at a key, unless it is `null`. -/
def present? (v : Json) (key : String) : Option Json :=
  (v.get? key).filter (· ≠ null)

/-- The integer at a key, or zero. -/
def natAt (v : Json) (key : String) : Nat :=
  ((v.get? key).bind nat?).getD 0

/-- The word at a key, or zero. -/
def wordAt (v : Json) (key : String) : UInt64 :=
  UInt64.ofNat (v.natAt key)

/-- The flag at a key, if there is one. -/
def flagAt? (v : Json) (key : String) : Option Bool :=
  match v.get? key with
  | some (bool b) => some b
  | _ => none

/-- The float at a key, if there is one. -/
def floatAt? (v : Json) (key : String) : Option Float :=
  match v.get? key with
  | some (num n) => some n.toFloat
  | _ => none

/-- The items at a key. -/
def itemsAt (v : Json) (key : String) : List Json :=
  ((v.get? key).bind items?).getD []

/-- The record at a key; its default is what an empty object builds. -/
def recordAt (v : Json) (key : String) : Json :=
  (v.get? key).getD (obj [])

/-- The count at a key, if there is one. -/
def wordAt? (v : Json) (key : String) : Option UInt64 :=
  ((v.get? key).bind nat?).map .ofNat

end TestReport.Json
