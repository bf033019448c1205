import TestReport.Json.Error
import TestReport.Number.Power

/-!
# Shapes of values

A shape says what a record asks of a value: which kinds of value, which fields, which words. It is
data, so that the same shape can be read in two ways: out of a value that is there (`Shape.read`,
here) and straight off a text, where a fault also has a place (`TestReport.Json.Shape.Scan`).

Reading returns the value in *plain form*: every record is an object that holds only fields of the
record under their own names, every word of a closed set has its usual spelling, and every number of
a float field is a float. What a record builds out of its plain form then needs no checks any more.

The rules of reading are these.

* Fields are taken in the order of the object's members, and the first that does not fit decides the
  error. A field may be there once, under its name or its other name; other members are passed over
  unless the record keeps them.
* A record may also be written as the array of its fields in order. Whether fields may be left off
  at its end depends on the record; more items than fields never fit.
* A word of a closed set may also be written as the key of an object with one member, `null`.
-/

namespace TestReport.Json

/-! ## Shapes -/

/-- Whether a record may be written as an array. -/
inductive ArrayForm
  /-- Fields may be left off at the end. -/
  | shortened
  /-- Every field has to be there. -/
  | complete
  /-- Not at all. -/
  | refused
deriving DecidableEq, Repr

/-- What is known of a record apart from its fields. -/
structure Layout where
  /-- What messages call the record. -/
  title : String
  array : ArrayForm := .shortened
  /-- Whether members that are no fields are kept. -/
  keepsOthers : Bool := false

/-- A field of a record apart from its shape. -/
structure Slot where
  name : String
  otherName : Option String := none
  required : Bool := false

/-- A closed set of words: their spellings with what each stands for, and the list for messages. -/
structure Vocabulary where
  spellings : List (String × String)
  known : List String

/-- What a record asks of a value. -/
inductive Shape
  /-- Any value. -/
  | any
  /-- A string to which there is no objection. -/
  | text (expected : String) (objection : String → Option String)
  /-- `true` or `false`. -/
  | flag
  /-- Any number, as a float. -/
  | float
  /-- An integer from zero up to but not including a bound. -/
  | nat (bound : Nat) (expected : String)
  /-- A number or a string; the name is what messages call it. -/
  | numberOrText (name : String)
  /-- A word of a closed set. -/
  | word (vocabulary : Vocabulary)
  /-- `null`, or a value of another shape. -/
  | optional (inner : Shape)
  /-- An array of values of one shape. -/
  | list (inner : Shape)
  /-- A record with its fields in order. -/
  | record (layout : Layout) (fields : List (Slot × Shape))

namespace Shape

/-- Any string. -/
def string : Shape := text "a string" fun _ => none

/-- A 64-bit word. -/
def word64 (expected : String) : Shape := nat (twoPow 64) expected

/-- A 32-bit word. -/
def word32 : Shape := nat (twoPow 32) "u32"

end Shape

/-! ## Parts of reading -/

/-- Whether a field goes by a key. -/
def Slot.answersTo (slot : Slot) (key : String) : Bool :=
  slot.name == key || slot.otherName == some key

/-- The field that goes by a key, with what belongs to it. -/
def slotFor? {α : Type} (fields : List (Slot × α)) (key : String) : Option (Slot × α) :=
  fields.find? (·.1.answersTo key)

/-- The first required field that is not among the members read. -/
def missing? {α : Type} (fields : List (Slot × α)) (members : List (String × Json)) :
    Option String :=
  (fields.find? fun f => f.1.required && (members.lookup f.1.name).isNone).map (·.1.name)

/-- The word that a spelling stands for. -/
def Vocabulary.meaning (vocabulary : Vocabulary) (word : String) : Except Mismatch Json :=
  match vocabulary.spellings.lookup word with
  | some meaning => .ok (.str meaning)
  | none => .error (.unknownVariant word vocabulary.known)

/-- How many elements a record has, for a message. -/
def countText (n : Nat) : String :=
  toString n ++ if n = 1 then " element" else " elements"

/-- What is said about an array that is too short for a record. -/
def Layout.tooShort (layout : Layout) (fields items : Nat) : Mismatch :=
  .wrongLength items (layout.title ++ " with " ++ countText fields)

/-- What is said about an array that is too long for a record. -/
def Layout.tooLong (layout : Layout) (fields items : Nat) : Mismatch :=
  .wrongLength items <|
    if layout.array = .complete then countText fields ++ " in sequence"
    else "fewer elements in array"

/-- A number that has to be an integer within a bound. -/
def readNat (bound : Nat) (expected : String) (n : Number) : Except Mismatch Json :=
  match n with
  | .int i =>
    if 0 ≤ i ∧ i < bound then .ok (.num n) else .error (.wrongValue (.num n) expected)
  | .float _ => .error (.wrongType (.num n) expected)

/-- What is said when a value is neither a number nor a string. -/
def noVariant (name : String) : Mismatch :=
  .unreadable ("data did not match any variant of untagged enum " ++ name)

/-- The fields among the members of an object, each read by its own reader. -/
def readFields (keepsOthers : Bool) (fields : List (Slot × (Json → Except Mismatch Json))) :
    List String → List (String × Json) → Except Mismatch (List (String × Json))
  | _, [] => .ok []
  | seen, (key, v) :: members =>
    match slotFor? fields key with
    | none => do
      let rest ← readFields keepsOthers fields seen members
      return if keepsOthers then (key, v) :: rest else rest
    | some (slot, read) =>
      if seen.contains slot.name then .error (.duplicate slot.name)
      else do
        let v ← read v
        let rest ← readFields keepsOthers fields (slot.name :: seen) members
        return (slot.name, v) :: rest

/-- The fields of a record written as an array, as far as there are items. -/
def readItemsAsFields :
    List (Slot × (Json → Except Mismatch Json)) → List Json →
      Except Mismatch (List (String × Json))
  | [], _ | _, [] => .ok []
  | (slot, read) :: fields, v :: items => do
    let v ← read v
    let rest ← readItemsAsFields fields items
    return (slot.name, v) :: rest

/-- A record out of a value, when each field has its reader. -/
def readRecord (layout : Layout) (fields : List (Slot × (Json → Except Mismatch Json))) :
    Json → Except Mismatch Json
  | .obj members => do
    let read ← readFields layout.keepsOthers fields [] members
    match missing? fields read with
    | some name => .error (.missing name)
    | none => return .obj read
  | .arr items =>
    if layout.array = .refused then .error (.wrongType .sequence layout.title)
    else do
      let read ← readItemsAsFields fields items
      if layout.array = .complete ∧ items.length < fields.length then
        .error (layout.tooShort fields.length items.length)
      else if fields.length < items.length then
        .error (layout.tooLong fields.length items.length)
      else return .obj read
  | v => .error (.wrongType (found v) layout.title)

/-! ## Reading -/

namespace Shape

mutual

/-- A value in the plain form of a shape, or why it does not fit. -/
def read : Shape → Json → Except Mismatch Json
  | any, v => .ok v
  | text expected objection, v =>
    match v with
    | .str s =>
      match objection s with
      | some reason => .error (.unreadable reason)
      | none => .ok v
    | _ => .error (.wrongType (found v) expected)
  | flag, v =>
    match v with
    | .bool _ => .ok v
    | _ => .error (.wrongType (found v) "a boolean")
  | float, v =>
    match v with
    | .num n => .ok (.num (.float n.toFloat))
    | _ => .error (.wrongType (found v) "f64")
  | nat bound expected, v =>
    match v with
    | .num n => readNat bound expected n
    | _ => .error (.wrongType (found v) expected)
  | numberOrText name, v =>
    match v with
    | .num n => .ok (.num (.float n.toFloat))
    | .str _ => .ok v
    | _ => .error (noVariant name)
  | word vocabulary, v =>
    match v with
    | .str s => vocabulary.meaning s
    | .obj [(key, inner)] => do
      let meaning ← vocabulary.meaning key
      match inner with
      | .null => return meaning
      | _ => .error (.wrongType (found inner) "unit")
    | .obj _ => .error (.wrongValue .map "map with a single key")
    | _ => .error (.wrongType (found v) "string or map")
  | optional inner, v =>
    match v with
    | .null => .ok .null
    | _ => read inner v
  | list inner, v =>
    match v with
    | .arr items => do return .arr (← items.mapM (read inner))
    | _ => .error (.wrongType (found v) "a sequence")
  | record layout fields, v => readRecord layout (readers fields) v

/-- The fields of a record with their readers. -/
def readers : List (Slot × Shape) → List (Slot × (Json → Except Mismatch Json))
  | [] => []
  | (slot, shape) :: fields => (slot, read shape) :: readers fields

end

end Shape

end TestReport.Json
