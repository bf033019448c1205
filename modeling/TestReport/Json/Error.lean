import TestReport.Json.Basic
import TestReport.Number.Shortest
import TestReport.Text.Bytes
import TestReport.Text.Quoted

/-!
# Why JSON cannot be read

Reading fails for one of two kinds of reason: the text is not JSON (`Malformed`), or the value does
not have the shape that a record asks for (`Mismatch`). Both are data, and the wording of each is in
one place, `Malformed.message` and `Mismatch.message`.

A reason found while going through a text comes with a place. `Fault` keeps the place as the part of
the text that is still unread and a count of bytes that are read past its start; `Fault.position`
turns that into a line and a column once the whole text is at hand. Lines count from one and start
after a line feed; the column is the number of bytes of the line up to that place, so it is zero
right after a line feed.
-/

namespace TestReport.Json

/-! ## Reasons -/

/-- Why a text is not JSON. -/
inductive Malformed
  | endInValue
  | endInList
  | endInObject
  | endInString
  | expectedValue
  | expectedIdent
  | expectedColon
  | expectedListEnd
  | expectedObjectEnd
  | keyNotString
  | trailingComma
  | trailingCharacters
  | invalidNumber
  | numberOutOfRange
  | invalidEscape
  | endOfHexEscape
  | loneSurrogate
  | controlCharacter
  | nestedTooDeep
deriving DecidableEq, Repr

/-- The wording of a reason why a text is not JSON. -/
def Malformed.message : Malformed → String
  | endInValue => "EOF while parsing a value"
  | endInList => "EOF while parsing a list"
  | endInObject => "EOF while parsing an object"
  | endInString => "EOF while parsing a string"
  | expectedValue => "expected value"
  | expectedIdent => "expected ident"
  | expectedColon => "expected `:`"
  | expectedListEnd => "expected `,` or `]`"
  | expectedObjectEnd => "expected `,` or `\x7d`"
  | keyNotString => "key must be a string"
  | trailingComma => "trailing comma"
  | trailingCharacters => "trailing characters"
  | invalidNumber => "invalid number"
  | numberOutOfRange => "number out of range"
  | invalidEscape => "invalid escape"
  | endOfHexEscape => "unexpected end of hex escape"
  | loneSurrogate => "lone leading surrogate in hex escape"
  | controlCharacter => "control character (\\u0000-\\u001F) found while parsing a string"
  | nestedTooDeep => "recursion limit exceeded"

/-- What was found in place of what a record asks for. -/
inductive Found
  | null
  | bool (b : Bool)
  | num (n : Number)
  | str (s : String)
  | sequence
  | map
deriving DecidableEq

/-- How a message names what was found. -/
def Found.text : Found → String
  | null => "null"
  | bool b => "boolean `" ++ (if b then "true" else "false") ++ "`"
  | num (.int n) => "integer `" ++ toString n ++ "`"
  | num (.float x) => "floating point `" ++ (floatText? x).getD "null" ++ "`"
  | str s => "string " ++ Text.quoted s
  | sequence => "sequence"
  | map => "map"

/-- What a value is, for a message. -/
def found : Json → Found
  | null => .null
  | bool b => .bool b
  | num n => .num n
  | str s => .str s
  | arr _ => .sequence
  | obj _ => .map

/-- Why a value does not have the shape that a record asks for. -/
inductive Mismatch
  | wrongType (found : Found) (expected : String)
  | wrongValue (found : Found) (expected : String)
  | wrongLength (length : Nat) (expected : String)
  | missing (field : String)
  | duplicate (field : String)
  | unknownVariant (word : String) (known : List String)
  | unreadable (reason : String)
deriving DecidableEq

/-- A list of names for a message: one alone, two joined by "or", more as a choice. -/
def oneOf : List String → String
  | [] => "there are no variants"
  | [a] => "expected `" ++ a ++ "`"
  | [a, b] => "expected `" ++ a ++ "` or `" ++ b ++ "`"
  | names => "expected one of " ++ ", ".intercalate (names.map fun name => "`" ++ name ++ "`")

/-- The wording of a reason why a value does not have the shape asked for. -/
def Mismatch.message : Mismatch → String
  | wrongType found expected => "invalid type: " ++ found.text ++ ", expected " ++ expected
  | wrongValue found expected => "invalid value: " ++ found.text ++ ", expected " ++ expected
  | wrongLength length expected =>
    "invalid length " ++ toString length ++ ", expected " ++ expected
  | missing field => "missing field `" ++ field ++ "`"
  | duplicate field => "duplicate field `" ++ field ++ "`"
  | unknownVariant word known => "unknown variant `" ++ word ++ "`, " ++ oneOf known
  | unreadable reason => reason

/-- Why a text or a value cannot be read. -/
inductive Cause
  | malformed (reason : Malformed)
  | mismatch (reason : Mismatch)
deriving DecidableEq

/-- The wording of a reason. -/
def Cause.message : Cause → String
  | malformed reason => reason.message
  | mismatch reason => reason.message

/-! ## Places -/

/-- A reason together with its place: `past` bytes after the start of the unread text. -/
structure Fault where
  cause : Cause
  rest : List Char
  past : Nat
deriving DecidableEq

/-- A place in a text as people count it. -/
structure Position where
  line : Nat
  column : Nat
deriving DecidableEq, Repr

/-- The place `offset` bytes after `start`, when the text from `start` on is given. -/
def Position.advance (start : Position) : List Char → Nat → Position
  | [], _ => start
  | c :: rest, offset =>
    if offset < c.utf8Size then ⟨start.line, start.column + offset⟩
    else
      let next : Position :=
        if c = '\n' then ⟨start.line + 1, 0⟩ else ⟨start.line, start.column + c.utf8Size⟩
      next.advance rest (offset - c.utf8Size)

/-- The place of a fault in the text that was read; never past its end. -/
def Fault.position (text : List Char) (fault : Fault) : Position :=
  let total := Text.byteCount text
  Position.advance ⟨1, 0⟩ text (min total (total - Text.byteCount fault.rest + fault.past))

/-- A reason with the place it was found at, if it was found in a text. -/
structure ReadError where
  cause : Cause
  position : Option Position
deriving DecidableEq

/-- The wording of a reason with its place. -/
def ReadError.message (e : ReadError) : String :=
  match e.position with
  | some p =>
    e.cause.message ++ " at line " ++ toString p.line ++ " column " ++ toString p.column
  | none => e.cause.message

/-- The error that a fault is in the text that was read. -/
def Fault.error (text : List Char) (fault : Fault) : ReadError :=
  ⟨fault.cause, some (fault.position text)⟩

/-- The error that a mismatch is, when no text is at hand. -/
def Mismatch.error (reason : Mismatch) : ReadError :=
  ⟨.mismatch reason, none⟩

end TestReport.Json
