import TestReport.Toml.Scalar
import TestReport.Toml.Text

/-!
# TOML documents

A document is a list of statements, each on lines of its own: a key with its value, a header that
opens a table, or a header that opens an element of an array of tables (`Statement`). `statements?`
reads them, and `Draft.add` takes one statement after the other into account; a document whose
statements contradict each other has no value.

The members of an inline table are keys with values too, so `buildInline` builds it by the same
function that adds a key and its value to a document.
-/

namespace TestReport.Toml

/-! ## Keys -/

/-- Whether a character may stand in a key without quotes. -/
def isKeyChar (c : Char) : Bool :=
  c.isAlphanum || c == '_' || c == '-'

/-- Takes one part of a key off a text. -/
def readKeyPart : List Char → Option (String × List Char)
  | [] => none
  | c :: s =>
    if c = '"' ∨ c = '\'' then readLine c s
    else if isKeyChar c then
      some (String.ofList ((c :: s).takeWhile isKeyChar), (c :: s).dropWhile isKeyChar)
    else none

/-- A key: the names of tables, and a name in the last of them. -/
structure Key where
  path : List String
  name : String
deriving DecidableEq, Repr

/-- Takes a key of at most `fuel` parts off a text, with the blanks around it. -/
def readKeyParts : Nat → List Char → Option (Key × List Char)
  | 0, _ => none
  | fuel + 1, s => do
    let (part, s) ← readKeyPart (skipBlanks s)
    match skipBlanks s with
    | '.' :: s =>
      let (key, s) ← readKeyParts fuel s
      return (⟨part :: key.path, key.name⟩, s)
    | s => return (⟨[], part⟩, s)

/-- Takes a key off a text, with the blanks around it. -/
def readKey (s : List Char) : Option (Key × List Char) :=
  readKeyParts (s.length + 1) s

/-! ## Values -/

/-- A key with its value. -/
structure Pair where
  key : Key
  value : Toml

/-- The inline table of some pairs. -/
def buildInline (pairs : List Pair) : Option Toml :=
  (pairs.foldlM (fun members p => putPair p.key.path p.key.name p.value .inline members) []).map
    (table .inline)

/-- Takes a key with its value off a text. -/
def readPair (value : List Char → Option (Toml × List Char)) (s : List Char) :
    Option (Pair × List Char) := do
  let (key, s) ← readKey s
  let (v, s) ← value (skipBlanks (← takeChar '=' s))
  return (⟨key, v⟩, s)

/-- Takes items off a text up to a closing bracket, at most `fuel` of them. A comma follows every
item but the last, and may follow that. -/
def readItems {α : Type} (close : Char) (item : List Char → Option (α × List Char)) :
    Nat → List Char → Option (List α × List Char)
  | 0, _ => none
  | fuel + 1, s =>
    match skipLayout false s with
    | [] => none
    | c :: r =>
      if c = close then some ([], r)
      else do
        let (v, s) ← item (c :: r)
        match skipLayout false s with
        | ',' :: s =>
          let (vs, s) ← readItems close item fuel s
          return (v :: vs, s)
        | s =>
          let s ← takeChar close s
          return ([v], s)

/-- Takes a value off a text, when `depth` brackets may still be opened. -/
def readValue (depth : Nat) (s : List Char) : Option (Toml × List Char) :=
  match s with
  | [] => none
  | c :: r =>
    if c = '"' ∨ c = '\'' then do
      let (string, s) ← readText c r
      return (.text string, s)
    else if c = '[' then
      match depth with
      | 0 => none
      | d + 1 => do
        let (items, s) ← readItems ']' (readValue d) (r.length + 1) r
        return (array items, s)
    else if c = '\x7b' then
      match depth with
      | 0 => none
      | d + 1 => do
        let (pairs, s) ← readItems '\x7d' (readPair (readValue d)) (r.length + 1) r
        return (← buildInline pairs, s)
    else readWord s

/-- How many brackets may stand inside one another. -/
def nestingLimit : Nat := 80

/-! ## Statements -/

/-- A statement of a document. -/
inductive Statement
  | pair (p : Pair)
  | header (key : Key)
  | elementHeader (key : Key)

/-- Takes a statement off a text. -/
def readStatement (s : List Char) : Option (Statement × List Char) :=
  match s with
  | '[' :: '[' :: s => do
    let (key, s) ← readKey s
    return (.elementHeader key, ← takeChar ']' (← takeChar ']' s))
  | '[' :: s => do
    let (key, s) ← readKey s
    return (.header key, ← takeChar ']' s)
  | s => do
    let (p, s) ← readPair (readValue nestingLimit) s
    return (.pair p, s)

/-- The statements of a text, at most `fuel` of them. -/
def statementsWithin? : Nat → List Char → Option (List Statement)
  | 0, _ => none
  | fuel + 1, s =>
    let s := skipLayout false s
    if s.isEmpty then some []
    else do
      let (statement, s) ← readStatement s
      let rest ← statementsWithin? fuel (← readLineEnd s)
      return statement :: rest

/-- The statements of a text, which may start with a byte-order mark. -/
def statements? (text : List Char) : Option (List Statement) :=
  let s :=
    match text with
    | '\uFEFF' :: s => s
    | s => s
  statementsWithin? (s.length + 1) s

/-! ## Documents -/

/-- What a document holds so far: its members, and the table to which keys belong. -/
structure Draft where
  members : Members := []
  current : List String := []

/-- Takes a statement into account. -/
def Draft.add (draft : Draft) : Statement → Option Draft
  | .pair p =>
    (change false (putPair p.key.path p.key.name p.value) draft.current .headed draft.members).map
      fun members => { draft with members := members }
  | .header key =>
    (openTable key.path key.name .headed draft.members).map
      fun members => ⟨members, key.path ++ [key.name]⟩
  | .elementHeader key =>
    (openElement key.path key.name .headed draft.members).map
      fun members => ⟨members, key.path ++ [key.name]⟩

/-- The members of the document that a text is. -/
def ofText? (text : String) : Option Members := do
  let statements ← statements? text.toList
  let draft ← statements.foldlM Draft.add {}
  return draft.members

end TestReport.Toml
