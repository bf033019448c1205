import TestReport.Instant.Basic
import TestReport.Number.Power
import TestReport.Text.Blank
import TestReport.Text.Bytes
import TestReport.Text.Digits

/-!
# Instants as text

An instant is written as date, `T`, time of day and `Z`, in universal time. The fraction has as many
digits as it needs out of none, three, six and nine; a year beyond four digits, or before year zero,
has a sign; the second of a leap second is 60 (`Instant.text`).

Two grammars are read. The strict one (`ofText?`) is that of internet timestamps: fixed widths, `T`
or `t` or a space between date and time, and a zone that is `Z`, `z` or hours and minutes. The
relaxed one (`read`) is for results that are read back: numbers may be short, blanks may stand
before numbers and separators, the year may have a sign and then any width, and the zone may be
`UTC`. A fraction may have any number of digits in both, of which nine count.

Both are one reader, `readWith`, with the grammar as a parameter. The reader says why it fails, and
the first field out of its range wins over anything wrong after it.
-/

namespace TestReport.Instant

/-! ## Writing -/

/-- A number with leading zeros up to a width. -/
def padded (width n : Nat) : List Char :=
  let digits := (toString n).toList
  List.replicate (width - digits.length) '0' ++ digits

/-- The text of a year. -/
def yearText (year : Int) : List Char :=
  if 0 ≤ year ∧ year ≤ 9999 then padded 4 year.toNat
  else (if year < 0 then '-' else '+') :: padded 4 year.natAbs

/-- The text of a fraction of a second, with its point. -/
def fractionText (nano : Nat) : List Char :=
  if nano = 0 then []
  else if nano % 1000000 = 0 then '.' :: padded 3 (nano / 1000000)
  else if nano % 1000 = 0 then '.' :: padded 6 (nano / 1000)
  else '.' :: padded 9 nano

/-- The text of an instant in universal time. -/
def text (t : Instant) : String :=
  let (year, month, day) := Calendar.civil t.day
  let second := t.second % 60 + t.nano / nanosPerSecond
  String.ofList <|
    yearText year ++ '-' :: padded 2 month ++ '-' :: padded 2 day ++
      'T' :: padded 2 (t.second / 3600) ++ ':' :: padded 2 (t.second / 60 % 60) ++
      ':' :: padded 2 second ++ fractionText (t.nano % nanosPerSecond) ++ ['Z']

/-! ## Errors -/

/-- Why a text is not an instant. -/
inductive TimeError
  | outOfRange
  | impossible
  | invalid
  | tooShort
  | tooLong
deriving DecidableEq, Repr

/-- The wording of an error. -/
def TimeError.message : TimeError → String
  | outOfRange => "input is out of range"
  | impossible => "no possible date and time matching input"
  | invalid => "input contains invalid characters"
  | tooShort => "premature end of input"
  | tooLong => "trailing input"

/-! ## Reading -/

/-- The two grammars of instants. -/
inductive Grammar
  | strict
  | relaxed
deriving DecidableEq, Repr

/-- Drops blanks where the grammar allows them. -/
def skipBlanks (g : Grammar) (s : List Char) : List Char :=
  match g with
  | .strict => s
  | .relaxed => Text.trimStart s

/-- Takes a number of `least` to `most` digits off a text. -/
def takeNumber (least most : Nat) (s : List Char) : Except TimeError (Nat × List Char) :=
  let digits := (s.take most).takeWhile Char.isDigit
  if Text.byteCount s < least then .error .tooShort
  else if digits.length < least then .error .invalid
  else .ok (Text.digitsValue digits, s.drop digits.length)

/-- Takes a number of the usual width off a text and tests its range. -/
def takeField (g : Grammar) (width low high : Nat) (s : List Char) :
    Except TimeError (Nat × List Char) := do
  let (n, s) ← takeNumber (if g = .strict then width else 1) width (skipBlanks g s)
  if low ≤ n ∧ n ≤ high then return (n, s) else throw .outOfRange

/-- Takes one given character off a text. -/
def takeChar (c : Char) : List Char → Except TimeError (List Char)
  | [] => .error .tooShort
  | d :: s => if d = c then .ok s else .error .invalid

/-- Takes a year off a text. -/
def takeYear (g : Grammar) (s : List Char) : Except TimeError (Int × List Char) := do
  let s := skipBlanks g s
  match g, s with
  | .relaxed, '-' :: r =>
    let (n, s) ← takeNumber 1 r.length.succ r
    if n ≤ twoPow 31 then return (-n, s) else throw .outOfRange
  | .relaxed, '+' :: r =>
    let (n, s) ← takeNumber 1 r.length.succ r
    if n < twoPow 31 then return (n, s) else throw .outOfRange
  | _, _ =>
    let (n, s) ← takeNumber (if g = .strict then 4 else 1) 4 s
    return (n, s)

/-- Takes the fraction of a second off a text, in nanoseconds; zero if there is none. -/
def takeFraction (s : List Char) : Except TimeError (Nat × List Char) :=
  match s with
  | '.' :: r => do
    let (n, _) ← takeNumber 1 9 r
    let digits := ((r.take 9).takeWhile Char.isDigit).length
    return (n * tenPow (9 - digits), r.dropWhile Char.isDigit)
  | _ => return (0, s)

/-- Drops what may stand between the hours and the minutes of a zone. -/
def takeZoneColon (g : Grammar) (s : List Char) : Except TimeError (List Char) :=
  match g with
  | .strict => takeChar ':' s
  | .relaxed => .ok (s.dropWhile fun c => c == ':' || Text.isBlank c)

/-- Takes two characters off a text that have to be digits. -/
def takeTwoDigits (s : List Char) : Except TimeError (Nat × List Char) :=
  if Text.byteCount s < 2 then .error .tooShort
  else if ((s.take 2).takeWhile Char.isDigit).length = 2 then
    .ok (Text.digitsValue (s.take 2), s.drop 2)
  else .error .invalid

/-- Takes the hours and minutes of a zone off a text, in seconds. -/
def takeOffset (g : Grammar) (s : List Char) : Except TimeError (Nat × List Char) := do
  let (hours, s) ← takeTwoDigits s
  let s ← takeZoneColon g s
  let (minutes, s) ← takeTwoDigits s
  if minutes < 60 then return (hours * 3600 + minutes * 60, s) else throw .outOfRange

/-- Takes a zone off a text: the seconds by which local time is ahead of universal time. -/
def takeZone (g : Grammar) (s : List Char) : Except TimeError (Int × List Char) :=
  match s with
  | [] => .error .tooShort
  | c :: r =>
    if g = .relaxed ∧ (s.take 3).map Char.toLower = ['u', 't', 'c'] then .ok (0, s.drop 3)
    else if c = 'Z' ∨ c = 'z' then .ok (0, r)
    else if c = '+' then do
      let (n, s) ← takeOffset g r
      return (n, s)
    else if c = '-' ∨ c = '\u2212' then do
      let (n, s) ← takeOffset g r
      return (-n, s)
    else .error .invalid

/-- The fields of a date and time as they are written. -/
structure Fields where
  year : Int
  month : Nat
  day : Nat
  hour : Nat
  minute : Nat
  second : Nat
  nano : Nat
  zone : Int

/-- The instant that the fields of a date and time mean. -/
def Fields.resolve (f : Fields) : Except TimeError Instant :=
  let day := Calendar.dayNumber f.year f.month f.day
  if !Calendar.isDate f.year f.month f.day ∨ day < firstDay ∨ lastDay < day then .error .outOfRange
  else if secondsPerDay ≤ f.zone.natAbs then .error .outOfRange
  else
    let leap := f.second / 60
    let local' : Int := f.hour * 3600 + f.minute * 60 + (f.second - leap : Nat)
    let second := local' - f.zone
    match of? (day + second / secondsPerDay) (second % secondsPerDay).toNat
      (f.nano + leap * nanosPerSecond) with
    | some t => .ok t
    | none => .error .impossible

/-- Takes the fields of a date and time off a text. -/
def takeFields (g : Grammar) (s : List Char) : Except TimeError (Fields × List Char) := do
  let (year, s) ← takeYear g s
  let s ← takeChar '-' (skipBlanks g s)
  let (month, s) ← takeField g 2 1 12 s
  let s ← takeChar '-' (skipBlanks g s)
  let (day, s) ← takeField g 2 1 31 s
  let s ←
    match s with
    | [] => throw .tooShort
    | c :: r => if c = 'T' ∨ c = 't' ∨ c = ' ' then pure r else throw .invalid
  let (hour, s) ← takeField g 2 0 23 s
  let s ← takeChar ':' (skipBlanks g s)
  let (minute, s) ← takeField g 2 0 59 s
  let s ← takeChar ':' (skipBlanks g s)
  let (second, s) ← takeField g 2 0 60 s
  let (nano, s) ← takeFraction s
  let (zone, s) ← takeZone g (skipBlanks g s)
  return (⟨year, month, day, hour, minute, second, nano, zone⟩, s)

/-- The instant that a whole text means in a grammar. -/
def readWith (g : Grammar) (s : List Char) : Except TimeError Instant := do
  let (fields, s) ← takeFields g s
  if (skipBlanks g s).isEmpty then fields.resolve else throw .tooLong

/-- The instant that a text means, strictly read, blanks around it apart. -/
def ofText? (s : String) : Option Instant :=
  (readWith .strict (Text.trim s.toList)).toOption

/-- The instant that a text of a result means. -/
def read (s : String) : Except TimeError Instant :=
  readWith .relaxed s.toList

example : (ofText? "2024-03-01t10:00:00.5+01:00").map text = some "2024-03-01T09:00:00.500Z" := by
  decide +kernel
example : (ofText? "2016-12-31T23:59:60Z").map text = some "2016-12-31T23:59:60Z" := by
  decide +kernel

end TestReport.Instant
