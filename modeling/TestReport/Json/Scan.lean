import TestReport.Json.Shape
import TestReport.Json.Skip

/-!
# Reading records off a text

`Shape.scan` reads a value of a given shape straight off a text. It gives the same plain form as
reading the value first and fitting it to the shape, but a fault has a place, and of a fault in the
text and a mismatch the one that comes first in the text wins. Members that are no fields are passed
over, not read.

A mismatch that a value itself shows is placed behind that value, or before it when it is a
container. A mismatch of a record as a whole is placed behind the closing brace if that is the next
thing in the text.
-/

namespace TestReport.Json

/-- A mismatch at the start of the unread text. -/
def mismatchAt {α : Type} (reason : Mismatch) (rest : List Char) : Except Fault α :=
  .error ⟨.mismatch reason, rest, 0⟩

/-- The fault of a value that is of the wrong type, whatever it is. -/
def wrongTypeAt {α : Type} (expected : String) (s : List Char) : Except Fault α :=
  match skipSpace s with
  | [] => faultAt .endInValue [] 0
  | c :: r =>
    if c = '[' then mismatchAt (.wrongType .sequence expected) (c :: r)
    else if c = '{' then mismatchAt (.wrongType .map expected) (c :: r)
    else do
      let (v, t) ← readValue 0 (c :: r)
      mismatchAt (.wrongType (found v) expected) t

/-- What follows a closing brace, if that is the next thing in a text. -/
def afterBrace (s : List Char) : List Char :=
  match skipSpace s with
  | '}' :: t => t
  | t => t

/-- Takes a string off a text. -/
def scanString (expected : String) (s : List Char) : Except Fault (String × List Char) :=
  match skipSpace s with
  | '"' :: r => readString r
  | _ => wrongTypeAt expected s

/-- Takes a number off a text. -/
def scanNumber (expected : String) (s : List Char) : Except Fault (Number × List Char) :=
  match skipSpace s with
  | c :: r => if c = '-' ∨ c.isDigit then readNumber (c :: r) else wrongTypeAt expected s
  | [] => faultAt .endInValue [] 0

/-- Takes a word of a closed set off a text. -/
def scanWord (vocabulary : Vocabulary) (s : List Char) : Except Fault (Json × List Char) := do
  let (w, t) ← scanString "variant identifier" s
  match vocabulary.meaning w with
  | .ok meaning => return (meaning, t)
  | .error reason => mismatchAt reason t

/-- Takes a word of a closed set off a text, where it may also be the key of an object. -/
def scanWordOrMap (vocabulary : Vocabulary) (depth : Nat) (s : List Char) :
    Except Fault (Json × List Char) :=
  match skipSpace s with
  | [] => faultAt .endInValue [] 0
  | c :: r =>
    if c = '"' then scanWord vocabulary (c :: r)
    else if c = '{' then
      if depth = 0 then faultAt .nestedTooDeep (c :: r) 1
      else do
        let (meaning, t) ← scanWord vocabulary r
        let t ← readColon t
        let t ←
          match skipSpace t with
          | 'n' :: u => readWord "ull".toList u
          | _ => wrongTypeAt "unit" t
        match skipSpace t with
        | [] => faultAt .endInObject [] 0
        | d :: u => if d = '}' then return (meaning, u) else faultAt .expectedValue (d :: u) 0
    else faultAt .expectedValue (c :: r) 1

/-- Takes `true` or `false` off a text. -/
def scanFlag (s : List Char) : Except Fault (Json × List Char) :=
  match skipSpace s with
  | 't' :: _ | 'f' :: _ => readValue 0 s
  | _ => wrongTypeAt "a boolean" s

/-- Takes the items of an array off a text, up to and including its closing bracket. -/
def scanItems (item : List Char → Except Fault (Json × List Char)) (s : List Char) :
    Except Fault (Json × List Char) := do
  let (vs, s) ← readItems item (s.length + 1) true s
  return (arr vs, s)

/-- How a field is taken off a text, when some containers may still be opened. -/
abbrev FieldScan := Nat → List Char → Except Fault (Json × List Char)

/-- Takes the fields among the members of an object off a text, in at most `fuel` steps. -/
def scanFields (keepsOthers : Bool) (fields : List (Slot × FieldScan)) (depth : Nat) :
    Nat → Bool → List String → List Char → Except Fault (List (String × Json) × List Char)
  | 0, _, _, s => faultAt .endInObject s 0
  | fuel + 1, first, seen, s => do
    match ← nextKey first s with
    | (none, s) => return ([], s)
    | (some key, s) =>
      match slotFor? fields key with
      | some (slot, scan) =>
        if seen.contains slot.name then mismatchAt (.duplicate slot.name) (afterBrace s)
        else
          let (v, s) ← scan depth (← readColon s)
          let (ms, s) ← scanFields keepsOthers fields depth fuel false (slot.name :: seen) s
          return ((slot.name, v) :: ms, s)
      | none =>
        if keepsOthers then
          let (v, s) ← readValue depth (← readColon s)
          let (ms, s) ← scanFields keepsOthers fields depth fuel false seen s
          return ((key, v.canonical) :: ms, s)
        else
          let s ← skipValue (← readColon s)
          scanFields keepsOthers fields depth fuel false seen s

/-- Takes the closing bracket of an array off a text. -/
def readListEnd (s : List Char) : Except Fault (List Char) :=
  match skipSpace s with
  | [] => faultAt .endInList [] 0
  | c :: r =>
    if c = ']' then .ok r
    else if c = ',' then
      match skipSpace r with
      | ']' :: t => faultAt .trailingComma (']' :: t) 1
      | t => faultAt .trailingCharacters t 1
    else faultAt .trailingCharacters (c :: r) 1

/-- Takes the fields of a record written as an array off a text. -/
def scanItemsAsFields (depth : Nat) :
    Bool → List (Slot × FieldScan) → List Char → Except Fault (List (String × Json) × List Char)
  | _, [], s => do return ([], ← readListEnd s)
  | first, (slot, scan) :: fields, s => do
    match ← nextItem first s with
    | (false, s) => return ([], s)
    | (true, s) =>
      let (v, s) ← scan depth s
      let (ms, s) ← scanItemsAsFields depth false fields s
      return ((slot.name, v) :: ms, s)

/-- Takes a record off a text, when each field has its own way of being taken. -/
def scanRecord (layout : Layout) (fields : List (Slot × FieldScan)) (depth : Nat)
    (s : List Char) : Except Fault (Json × List Char) :=
  match skipSpace s with
  | [] => faultAt .endInValue [] 0
  | c :: r =>
    if c = '{' then
      match depth with
      | 0 => faultAt .nestedTooDeep (c :: r) 1
      | d + 1 => do
        let (ms, t) ← scanFields layout.keepsOthers fields d (r.length + 1) true [] r
        match missing? fields ms with
        | some name => mismatchAt (.missing name) t
        | none => return (obj ms, t)
    else if c = '[' ∧ layout.array ≠ .refused then
      match depth with
      | 0 => faultAt .nestedTooDeep (c :: r) 1
      | d + 1 => do
        let (ms, t) ← scanItemsAsFields d true fields r
        return (obj ms, t)
    else wrongTypeAt layout.title (c :: r)

namespace Shape

mutual

/-- Takes a value of a shape off a text, in plain form, when `depth` containers may still be
opened. -/
def scan : Shape → Nat → List Char → Except Fault (Json × List Char)
  | any, depth, s => do
    let (v, s) ← readValue depth s
    return (v.canonical, s)
  | text expected objection, _, s => do
    let (w, s) ← scanString expected s
    match objection w with
    | some reason => mismatchAt (.unreadable reason) s
    | none => return (.str w, s)
  | flag, _, s => scanFlag s
  | float, _, s => do
    let (n, s) ← scanNumber "f64" s
    return (.num (.float n.toFloat), s)
  | nat bound expected, _, s => do
    let (n, s) ← scanNumber expected s
    match readNat bound expected n with
    | .ok v => return (v, s)
    | .error reason => mismatchAt reason s
  | numberOrText name, depth, s => do
    let (v, s) ← readValue depth s
    match v with
    | .num n => return (.num (.float n.toFloat), s)
    | .str w => return (.str w, s)
    | _ => mismatchAt (noVariant name) s
  | word vocabulary, depth, s => scanWordOrMap vocabulary depth s
  | optional inner, depth, s =>
    match skipSpace s with
    | 'n' :: r => do return (.null, ← readWord "ull".toList r)
    | _ => scan inner depth s
  | list inner, depth, s =>
    match skipSpace s with
    | '[' :: r =>
      match depth with
      | 0 => faultAt .nestedTooDeep ('[' :: r) 1
      | d + 1 => scanItems (scan inner d) r
    | _ => wrongTypeAt "a sequence" s
  | record layout fields, depth, s => scanRecord layout (scanners fields) depth s

/-- The fields of a record with the ways of taking them off a text. -/
def scanners : List (Slot × Shape) → List (Slot × FieldScan)
  | [] => []
  | (slot, shape) :: fields => (slot, fun depth s => scan shape depth s) :: scanners fields

end

/-- The plain form of the value that a whole text spells. -/
def scanText (shape : Shape) (text : String) : Except ReadError Json :=
  let s := text.toList
  let scanned : Except Fault Json := do
    let (v, rest) ← shape.scan nestingLimit s
    readEnd rest
    return v
  match scanned with
  | .ok v => .ok v
  | .error fault => .error (fault.error s)

end Shape

end TestReport.Json
