import TestReport.Instant.Calendar
import TestReport.Number.Power
import TestReport.Text.Digits
import TestReport.Text.Split
import TestReport.Toml.Basic

/-!
# TOML words

A value without quotes or brackets is a word: `true` or `false`, a number, or a time. Numbers may
have underscores between digits, never leading zeros in base ten, and have to fit the widest numbers
there are: 128 bits for an integer, the range of binary64 for the rest. A date has to exist, and a
time of day may leave off its seconds.

`ofWord?` sorts a word into these classes. Each class is a test on the characters of the word.
-/

namespace TestReport.Toml

/-! ## Digits -/

/-- The digits in a row that may have underscores between any two of them; nothing when the row is
not of that form. -/
def plainDigits? (isDigit : Char → Bool) (s : List Char) : Option (List Char) :=
  let groups := Text.splitAll '_' s
  if groups.all fun g => !g.isEmpty && g.all isDigit then some groups.flatten else none

/-- A text without the sign that it may start with, and whether that is a minus. -/
def takeSign : List Char → Bool × List Char
  | '-' :: s => (true, s)
  | '+' :: s => (false, s)
  | s => (false, s)

/-! ## Numbers -/

/-- The digits of a whole number in base ten, which has no leading zero. -/
def wholeDigits? (s : List Char) : Option (List Char) :=
  match s with
  | '0' :: _ :: _ => none
  | _ => plainDigits? Char.isDigit s

/-- Whether a number fits 128 bits, with a sign if it is negative. -/
def fitsWord (negative : Bool) (n : Nat) : Bool :=
  if negative then n ≤ twoPow 127 else n < twoPow 128

/-- Whether some digits spell an integer in a base that is a power of two. -/
def isInBase (base : Nat) (s : List Char) : Bool :=
  let isDigit (c : Char) : Bool := (Text.hexValue? c).any (· < base)
  match plainDigits? isDigit s with
  | some digits =>
    fitsWord false (digits.foldl (fun n c => base * n + (Text.hexValue? c).getD 0) 0)
  | none => false

/-- Whether a word is an integer. -/
def isInteger : List Char → Bool
  | '0' :: 'x' :: s => isInBase 16 s
  | '0' :: 'o' :: s => isInBase 8 s
  | '0' :: 'b' :: s => isInBase 2 s
  | s =>
    let (negative, s) := takeSign s
    match wholeDigits? s with
    | some digits => fitsWord negative (Text.digitsValue digits)
    | none => false

/-- Whether a decimal fraction, without its point times a power of ten, rounds to a finite binary64
number. -/
def isFinite (digits : List Char) (exponent : Int) : Bool :=
  let n := Text.digitsValue digits
  let length : Int := (toString n).length
  let bound := twoPow 1024 - twoPow 970
  n == 0 || length + exponent ≤ 308 ||
    (length + exponent ≤ 309 &&
      if 0 ≤ exponent then n * tenPow exponent.toNat < bound
      else n < bound * tenPow (-exponent).toNat)

/-- The exponent that a text spells behind its letter; zero when there is no text. -/
def exponent? : List Char → Option Int
  | [] => some 0
  | c :: s =>
    if c = 'e' ∨ c = 'E' then
      let (negative, s) := takeSign s
      (plainDigits? Char.isDigit s).map fun digits =>
        let n : Int := Text.digitsValue digits
        if negative then -n else n
    else none

/-- Whether a word without its sign is a number with a fraction or an exponent. -/
def isDecimal (s : List Char) : Bool :=
  let inRow (c : Char) : Bool := c.isDigit || c == '_'
  let whole := s.takeWhile inRow
  match wholeDigits? whole, s.dropWhile inRow with
  | some digits, '.' :: s =>
    match plainDigits? Char.isDigit (s.takeWhile inRow), exponent? (s.dropWhile inRow) with
    | some places, some e => isFinite (digits ++ places) (e - places.length)
    | _, _ => false
  | some digits, c :: s => (exponent? (c :: s)).any (isFinite digits)
  | _, _ => false

/-- Whether a word is a number. -/
def isNumber (s : List Char) : Bool :=
  let unsigned := (takeSign s).2
  isInteger s || isDecimal unsigned || unsigned == "inf".toList || unsigned == "nan".toList

/-! ## Times -/

/-- Takes a number of exactly `width` digits off a text. -/
def takeDigits (width : Nat) (s : List Char) : Option (Nat × List Char) :=
  let digits := s.take width
  if digits.length = width ∧ digits.all Char.isDigit then
    some (Text.digitsValue digits, s.drop width)
  else none

/-- Takes a character off a text. -/
def takeChar (c : Char) : List Char → Option (List Char)
  | [] => none
  | d :: s => if d = c then some s else none

/-- Takes two digits within a bound off a text. -/
def takeField (most : Nat) (s : List Char) : Option (List Char) := do
  let (n, s) ← takeDigits 2 s
  if n ≤ most then return s else none

/-- Takes a date off a text. -/
def takeDate (s : List Char) : Option (List Char) := do
  let (year, s) ← takeDigits 4 s
  let (month, s) ← takeDigits 2 (← takeChar '-' s)
  let (day, s) ← takeDigits 2 (← takeChar '-' s)
  if Calendar.isDate year month day then return s else none

/-- Takes the fraction of a second off a text, if there is one. -/
def takeFraction : List Char → Option (List Char)
  | '.' :: s => if (s.takeWhile Char.isDigit).isEmpty then none else some (s.dropWhile Char.isDigit)
  | s => some s

/-- Takes a time of day off a text. -/
def takeTimeOfDay (s : List Char) : Option (List Char) := do
  let s ← takeField 23 s
  let s ← takeField 59 (← takeChar ':' s)
  match s with
  | ':' :: s => takeFraction (← takeField 60 s)
  | s => return s

/-- Takes a time zone off a text, if there is one. -/
def takeZone : List Char → Option (List Char)
  | [] => some []
  | c :: s =>
    if c = 'Z' ∨ c = 'z' then some s
    else if c = '+' ∨ c = '-' then do
      let s ← takeField 23 s
      takeField 59 (← takeChar ':' s)
    else none

/-- Whether a word is a date, a time of day, or both with or without a zone. -/
def isTime (s : List Char) : Bool :=
  match takeDate s with
  | some [] => true
  | some (c :: s) =>
    (c = 'T' || c = 't' || c = ' ') && ((takeTimeOfDay s).bind takeZone).any List.isEmpty
  | none => (takeTimeOfDay s).any List.isEmpty

/-! ## Words -/

/-- The value that a word is. -/
def ofWord? (s : List Char) : Option Toml :=
  if s = "true".toList then some (flag true)
  else if s = "false".toList then some (flag false)
  else if isNumber s then some number
  else if isTime s then some time
  else none

/-- Whether a character ends a word. -/
def endsWord (c : Char) : Bool :=
  c == ' ' || c == '\t' || c == '\n' || c == '\r' || c == ',' || c == '#' || c == '[' || c == ']' ||
    c == '\x7b' || c == '\x7d' || c == '"' || c == '\''

/-- The word that a text starts with, and what follows it. -/
def cutWord (s : List Char) : List Char × List Char :=
  (s.takeWhile (!endsWord ·), s.dropWhile (!endsWord ·))

/-- Takes a word off a text. A date and a time of day with a space between them are one word. -/
def readWord (s : List Char) : Option (Toml × List Char) :=
  let (word, rest) := cutWord s
  match takeDate word, rest with
  | some [], ' ' :: c :: rest =>
    if c.isDigit then
      let (tail, rest) := cutWord (c :: rest)
      (ofWord? (word ++ ' ' :: tail)).map (·, rest)
    else some (time, ' ' :: c :: rest)
  | _, _ => (ofWord? word).map (·, rest)

example : isNumber "1_000.5e-3".toList = true := by decide
example : isNumber "1__0".toList = false := by decide
example : isNumber "1e400".toList = false := by decide +kernel
example : isTime "1979-05-27 07:32Z".toList = true := by decide
example : isTime "2023-02-29".toList = false := by decide

end TestReport.Toml
