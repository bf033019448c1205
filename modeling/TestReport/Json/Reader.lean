import TestReport.Json.Error
import TestReport.Number.Power
import TestReport.Text.Digits

/-!
# Reading JSON text

The reader takes one value off the front of a text and returns it with the text that is left
(`readValue`), so that a report can be read although other output follows it. A container is read by
asking for its next item (`nextItem`) or its next key (`nextKey`) until it closes; these two steps
decide which fault a misplaced comma or a missing bracket is, and every other reader of containers
is built from them.

Recursion is on the number of containers that may still be opened, which is the limit on nesting
itself; within one container the loop runs on a count that the length of the text bounds, as every
item takes at least one character.

Numbers follow two rules of their own. A number without fraction and exponent is an integer if it
fits the 64-bit range of its sign, where a negative zero counts as a float. Any other number is made
by one multiplication or division of its digits, read as a 64-bit integer, with a power of ten; the
digits that do not fit are dropped into the exponent before the point and ignored after it.
-/

namespace TestReport.Json

/-- A fault at the start of the unread text, or some bytes past it. -/
def faultAt {α : Type} (reason : Malformed) (rest : List Char) (past : Nat) : Except Fault α :=
  .error ⟨.malformed reason, rest, past⟩

/-- The blanks of JSON text. -/
def isSpace (c : Char) : Bool :=
  c == ' ' || c == '\n' || c == '\t' || c == '\r'

/-- A text without its leading blanks. -/
def skipSpace (s : List Char) : List Char :=
  s.dropWhile isSpace

/-! ## Words -/

/-- Takes the characters of a word off a text. -/
def readWord : List Char → List Char → Except Fault (List Char)
  | [], s => .ok s
  | _ :: _, [] => faultAt .endInValue [] 0
  | w :: word, c :: s => if c = w then readWord word s else faultAt .expectedIdent (c :: s) 1

/-! ## Strings -/

/-- Takes four hexadecimal digits off a text. -/
def readHexWord (s : List Char) : Except Fault (Nat × List Char) :=
  let digits := s.take 4
  match Text.hexNumber? digits with
  | some n => if digits.length = 4 then .ok (n, s.drop 4) else faultAt .endInString [] 0
  | none =>
    if Text.byteCount digits < 4 then faultAt .endInString [] 0 else faultAt .invalidEscape s 4

/-- Takes one character off a text that has to be `c`, in the second half of a surrogate pair. -/
def readPairMark (c : Char) : List Char → Except Fault (List Char)
  | [] => faultAt .endInString [] 0
  | d :: s => if d = c then .ok s else faultAt .endOfHexEscape (d :: s) 1

/-- Takes the digits of a `\u` escape off a text; a leading surrogate needs a second escape. -/
def readCodePoint (s : List Char) : Except Fault (Char × List Char) := do
  let (n, s) ← readHexWord s
  if 0xDC00 ≤ n ∧ n ≤ 0xDFFF then faultAt .loneSurrogate s 0
  else if 0xD800 ≤ n ∧ n ≤ 0xDBFF then
    let s ← readPairMark '\\' s
    let s ← readPairMark 'u' s
    let (m, s) ← readHexWord s
    if 0xDC00 ≤ m ∧ m ≤ 0xDFFF then
      return (Char.ofNat (0x10000 + (n - 0xD800) * 0x400 + (m - 0xDC00)), s)
    else faultAt .loneSurrogate s 0
  else return (Char.ofNat n, s)

/-- Takes what follows a backslash off a text. -/
def readEscape : List Char → Except Fault (Char × List Char)
  | [] => faultAt .endInString [] 0
  | c :: s =>
    if c = 'u' then readCodePoint s
    else if c = '"' ∨ c = '\\' ∨ c = '/' then .ok (c, s)
    else if c = 'b' then .ok ('\x08', s)
    else if c = 'f' then .ok ('\x0c', s)
    else if c = 'n' then .ok ('\n', s)
    else if c = 'r' then .ok ('\r', s)
    else if c = 't' then .ok ('\t', s)
    else faultAt .invalidEscape (c :: s) 1

/-- Takes the next character of a string off a text; nothing at the quote that closes it. -/
def readUnit : List Char → Except Fault (Option Char × List Char)
  | [] => faultAt .endInString [] 0
  | c :: s =>
    if c = '"' then .ok (none, s)
    else if c = '\\' then do
      let (d, s) ← readEscape s
      return (some d, s)
    else if c.toNat < 0x20 then faultAt .controlCharacter (c :: s) 1
    else .ok (some c, s)

/-- Takes the characters up to and including a closing quote, at most `fuel` of them. -/
def readChars : Nat → List Char → Except Fault (List Char × List Char)
  | 0, s => faultAt .endInString s 0
  | fuel + 1, s => do
    match ← readUnit s with
    | (none, s) => return ([], s)
    | (some c, s) =>
      let (cs, s) ← readChars fuel s
      return (c :: cs, s)

/-- Takes a string off a text, its opening quote being read already. -/
def readString (s : List Char) : Except Fault (String × List Char) := do
  let (cs, s) ← readChars (s.length + 1) s
  return (String.ofList cs, s)

/-! ## Numbers -/

/-- Appends digits to a number as long as it does not exceed a limit; returns the digits left. -/
def absorb (limit : Nat) : Nat → List Char → Nat × List Char
  | n, [] => (n, [])
  | n, d :: ds =>
    let next := 10 * n + Text.digitValue d
    if next ≤ limit then absorb limit next ds else (n, d :: ds)

/-- The power of ten as a float. -/
def powerOfTen (n : Nat) : Float :=
  Float.ofScientific 1 false n

/-- A float times a power of ten: one multiplication or division where the table of powers reaches,
and division by its last power until it does. Nothing when the result is too large. -/
def timesPower? : Nat → Float → Int → Option Float
  | 0, x, _ => some x
  | fuel + 1, x, e =>
    if e.natAbs ≤ 308 then
      if 0 ≤ e then
        let y := x * powerOfTen e.natAbs
        if y.isInf then none else some y
      else some (x / powerOfTen e.natAbs)
    else if x == 0 then some x
    else if 0 ≤ e then none
    else timesPower? fuel (x / powerOfTen 308) (e + 308)

/-- The largest significand. -/
def maxSignificand : Nat := twoPow 64 - 1

/-- The largest exponent that is read digit by digit. -/
def maxExponent : Nat := twoPow 31 - 1

/-- A float of a sign, a significand and a power of ten, with the text after it. -/
def makeFloat (negative : Bool) (significand : Nat) (e : Int) (s : List Char) :
    Except Fault (Number × List Char) :=
  match timesPower? 5 (UInt64.ofNat significand).toFloat e with
  | some x => .ok (.float (if negative then -x else x), s)
  | none => faultAt .numberOutOfRange s 0

/-- Reads what follows the letter of an exponent. -/
def readExponent (negative : Bool) (significand : Nat) (e : Int) (s : List Char) :
    Except Fault (Number × List Char) :=
  let (minus, s) :=
    match s with
    | '+' :: r => (false, r)
    | '-' :: r => (true, r)
    | _ => (false, s)
  match s with
  | [] => faultAt .endInValue [] 0
  | c :: r =>
    if !c.isDigit then faultAt .invalidNumber (c :: r) 1
    else
      let after := s.dropWhile Char.isDigit
      match absorb maxExponent 0 (s.takeWhile Char.isDigit) with
      | (n, []) => makeFloat negative significand (if minus then e - n else e + n) after
      | (_, _ :: left) =>
        if significand ≠ 0 ∧ !minus then faultAt .numberOutOfRange (left ++ after) 0
        else .ok (.float (if negative then -0.0 else 0.0), after)

/-- Reads an exponent if there is one. -/
def readTail (negative : Bool) (significand : Nat) (e : Int) (s : List Char) :
    Except Fault (Number × List Char) :=
  match s with
  | [] => makeFloat negative significand e s
  | c :: r =>
    if c = 'e' ∨ c = 'E' then readExponent negative significand e r
    else makeFloat negative significand e s

/-- Reads what follows a decimal point. -/
def readFraction (negative : Bool) (significand : Nat) (e : Int) (s : List Char) :
    Except Fault (Number × List Char) :=
  let digits := s.takeWhile Char.isDigit
  let after := s.dropWhile Char.isDigit
  if digits.isEmpty then
    if after.isEmpty then faultAt .endInValue [] 0 else faultAt .invalidNumber s 1
  else
    let (n, left) := absorb maxSignificand significand digits
    readTail negative n (e - (digits.length - left.length : Nat)) after

/-- The number that digits without fraction and exponent spell: an integer where its sign's 64-bit
range allows, else a float. -/
def makeInteger (negative : Bool) (n : Nat) : Number :=
  if !negative then .int n
  else if 0 < n ∧ n ≤ twoPow 63 then .int (-n)
  else .float (-(UInt64.ofNat n).toFloat)

/-- Takes a number off a text that starts with a digit or a minus sign. -/
def readNumber (s : List Char) : Except Fault (Number × List Char) :=
  let (negative, s) :=
    match s with
    | '-' :: r => (true, r)
    | _ => (false, s)
  match s with
  | [] => faultAt .endInValue [] 0
  | c :: r =>
    if !c.isDigit then faultAt .invalidNumber (c :: r) 1
    else
      let digits := s.takeWhile Char.isDigit
      let after := s.dropWhile Char.isDigit
      if c = '0' ∧ 1 < digits.length then faultAt .invalidNumber r 1
      else
        let (n, left) := absorb maxSignificand 0 digits
        match after with
        | '.' :: t => readFraction negative n left.length t
        | _ =>
          if left.isEmpty ∧ !(after.head?.any fun d => d == 'e' || d == 'E') then
            .ok (makeInteger negative n, after)
          else readTail negative n left.length after

/-! ## Containers -/

/-- Looks for the next item of an array: whether there is one, with the text it starts. -/
def nextItem (first : Bool) (s : List Char) : Except Fault (Bool × List Char) :=
  match skipSpace s with
  | [] => faultAt .endInList [] 0
  | c :: r =>
    if c = ']' then .ok (false, r)
    else if first then .ok (true, c :: r)
    else if c = ',' then
      match skipSpace r with
      | [] => faultAt .endInValue [] 0
      | d :: t => if d = ']' then faultAt .trailingComma (d :: t) 1 else .ok (true, d :: t)
    else faultAt .expectedListEnd (c :: r) 1

/-- Looks for the next key of an object: the key, if the object does not close. -/
def nextKey (first : Bool) (s : List Char) : Except Fault (Option String × List Char) :=
  match skipSpace s with
  | [] => faultAt .endInObject [] 0
  | c :: r =>
    if c = '}' then .ok (none, r)
    else if first then
      if c = '"' then do
        let (key, t) ← readString r
        return (some key, t)
      else faultAt .keyNotString (c :: r) 1
    else if c = ',' then
      match skipSpace r with
      | [] => faultAt .endInValue [] 0
      | d :: t =>
        if d = '"' then do
          let (key, u) ← readString t
          return (some key, u)
        else if d = '}' then faultAt .trailingComma (d :: t) 1
        else faultAt .keyNotString (d :: t) 1
    else faultAt .expectedObjectEnd (c :: r) 1

/-- Takes the colon between a key and its value off a text. -/
def readColon (s : List Char) : Except Fault (List Char) :=
  match skipSpace s with
  | [] => faultAt .endInObject [] 0
  | c :: r => if c = ':' then .ok r else faultAt .expectedColon (c :: r) 1

/-- Takes the items of an array off a text, up to and including its closing bracket. -/
def readItems (item : List Char → Except Fault (Json × List Char)) :
    Nat → Bool → List Char → Except Fault (List Json × List Char)
  | 0, _, s => faultAt .endInList s 0
  | fuel + 1, first, s => do
    match ← nextItem first s with
    | (false, s) => return ([], s)
    | (true, s) =>
      let (v, s) ← item s
      let (vs, s) ← readItems item fuel false s
      return (v :: vs, s)

/-- Takes the members of an object off a text, up to and including its closing brace. -/
def readMembers (item : List Char → Except Fault (Json × List Char)) :
    Nat → Bool → List Char → Except Fault (List (String × Json) × List Char)
  | 0, _, s => faultAt .endInObject s 0
  | fuel + 1, first, s => do
    match ← nextKey first s with
    | (none, s) => return ([], s)
    | (some key, s) =>
      let s ← readColon s
      let (v, s) ← item s
      let (ms, s) ← readMembers item fuel false s
      return ((key, v) :: ms, s)

/-! ## Values -/

/-- Takes a value off a text, as it is written, when `depth` containers may still be opened. -/
def readValue (depth : Nat) (s : List Char) : Except Fault (Json × List Char) :=
  match skipSpace s with
  | [] => faultAt .endInValue [] 0
  | c :: r =>
    if c = '"' then do
      let (text, t) ← readString r
      return (str text, t)
    else if c = '[' then
      match depth with
      | 0 => faultAt .nestedTooDeep (c :: r) 1
      | d + 1 => do
        let (vs, t) ← readItems (readValue d) (r.length + 1) true r
        return (arr vs, t)
    else if c = '{' then
      match depth with
      | 0 => faultAt .nestedTooDeep (c :: r) 1
      | d + 1 => do
        let (ms, t) ← readMembers (readValue d) (r.length + 1) true r
        return (obj ms, t)
    else if c = 'n' then do
      let t ← readWord "ull".toList r
      return (null, t)
    else if c = 't' then do
      let t ← readWord "rue".toList r
      return (bool true, t)
    else if c = 'f' then do
      let t ← readWord "alse".toList r
      return (bool false, t)
    else if c = '-' ∨ c.isDigit then do
      let (n, t) ← readNumber (c :: r)
      return (num n, t)
    else faultAt .expectedValue (c :: r) 1

/-- How many containers of a report may stand inside one another. -/
def nestingLimit : Nat := 127

/-- Nothing but blanks may be left of a text. -/
def readEnd (s : List Char) : Except Fault Unit :=
  match skipSpace s with
  | [] => .ok ()
  | c :: r => faultAt .trailingCharacters (c :: r) 1

/-- The value that a whole text spells, as it is written. -/
def readText (depth : Nat) (text : List Char) : Except Fault Json := do
  let (v, s) ← readValue depth text
  readEnd s
  return v

/-- The value that a text spells, in canonical form. -/
def ofText? (text : String) : Except ReadError Json :=
  match readText nestingLimit text.toList with
  | .ok v => .ok v.canonical
  | .error fault => .error (fault.error text.toList)

end TestReport.Json
