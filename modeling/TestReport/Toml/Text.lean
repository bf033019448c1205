import TestReport.Text.Digits

/-!
# TOML strings and layout

A string stands between quotes of one of two kinds, single or double, on one line or between triple
quotes over several. Between double quotes a backslash starts an escape. `StringForm` says which of
the four forms a string has, and one reader takes them all (`readText`).

Between the parts of a document stand blanks, comments and line ends. A carriage return is part of a
line end or nothing that a document may hold, and no other control but the tab is allowed anywhere.
-/

namespace TestReport.Toml

/-! ## Layout -/

/-- The blanks of a line. -/
def isBlank (c : Char) : Bool :=
  c == ' ' || c == '\t'

/-- A text without the blanks that it starts with. -/
def skipBlanks (s : List Char) : List Char :=
  s.dropWhile isBlank

/-- Whether a character may stand in a comment or a string: a tab, or anything but a control. -/
def isPrintable (c : Char) : Bool :=
  c == '\t' || (0x20 ≤ c.toNat && c.toNat != 0x7F)

/-- What follows the line end that a text starts with. -/
def newline? : List Char → Option (List Char)
  | '\n' :: s => some s
  | '\r' :: '\n' :: s => some s
  | _ => none

/-- What follows a comment on its line, the sign that starts it being read already. -/
def skipComment (s : List Char) : List Char :=
  s.dropWhile isPrintable

/-- Takes the rest of a line off a text: blanks and a comment, then a line end or the end. -/
def readLineEnd (s : List Char) : Option (List Char) :=
  let s :=
    match skipBlanks s with
    | '#' :: s => skipComment s
    | s => s
  if s.isEmpty then some [] else newline? s

/-- A text without the blanks, comments and line ends that it starts with. -/
def skipLayout (inComment : Bool) : List Char → List Char
  | [] => []
  | '\n' :: s => skipLayout false s
  | '\r' :: '\n' :: s => skipLayout false s
  | c :: s =>
    if inComment then
      if isPrintable c then skipLayout true s else c :: s
    else if c = '#' then skipLayout true s
    else if isBlank c then skipLayout false s
    else c :: s

/-! ## Strings -/

/-- The form of a string. -/
structure StringForm where
  quote : Char
  /-- Whether it may hold line ends. -/
  multiline : Bool
deriving DecidableEq, Repr

/-- Whether a backslash starts an escape. -/
def StringForm.escapes (form : StringForm) : Bool :=
  form.quote == '"'

/-- A part of a string that was read: its characters, whether the string ends with them, and the
text that is left. -/
structure Piece where
  chars : List Char
  closes : Bool
  rest : List Char

/-- A text without the blanks and line ends that it starts with. -/
def skipFold : List Char → List Char
  | '\n' :: s => skipFold s
  | '\r' :: '\n' :: s => skipFold s
  | c :: s => if isBlank c then skipFold s else c :: s
  | [] => []

/-- The character of a code point that is spelt by the first `n` characters of a text. -/
def readCodePoint (n : Nat) (s : List Char) : Option Piece :=
  let digits := s.take n
  if digits.length = n then
    match Text.hexNumber? digits with
    | some code => if code.isValidChar then some ⟨[Char.ofNat code], false, s.drop n⟩ else none
    | none => none
  else none

/-- Takes what follows a backslash off a text. A backslash at the end of a line joins it to the next
one that is not blank. -/
def readEscape (multiline : Bool) : List Char → Option Piece
  | [] => none
  | c :: s =>
    let one (c : Char) : Option Piece := some ⟨[c], false, s⟩
    if c = '"' ∨ c = '\\' then one c
    else if c = 'b' then one '\x08'
    else if c = 't' then one '\t'
    else if c = 'n' then one '\n'
    else if c = 'f' then one '\x0c'
    else if c = 'r' then one '\r'
    else if c = 'e' then one '\x1b'
    else if c = 'x' then readCodePoint 2 s
    else if c = 'u' then readCodePoint 4 s
    else if c = 'U' then readCodePoint 8 s
    else if multiline ∧ (newline? (skipBlanks (c :: s))).isSome then
      some ⟨[], false, skipFold (c :: s)⟩
    else none

/-- Takes a row of quotes off a string of several lines. Three of them close it, and up to two
before those belong to it. -/
def readQuotes (quote : Char) (s : List Char) : Option Piece :=
  let n := (s.takeWhile (· == quote)).length
  let rest := s.dropWhile (· == quote)
  if n < 3 then some ⟨List.replicate n quote, false, rest⟩
  else if n < 6 then some ⟨List.replicate (n - 3) quote, true, rest⟩
  else none

/-- Takes the next part of a string off a text. -/
def readPiece (form : StringForm) : List Char → Option Piece
  | [] => none
  | c :: s =>
    if c = form.quote then
      if form.multiline then readQuotes form.quote (c :: s) else some ⟨[], true, s⟩
    else if form.escapes ∧ c = '\\' then readEscape form.multiline s
    else if isPrintable c ∨ form.multiline ∧ (newline? (c :: s)).isSome then
      some ⟨[c], false, s⟩
    else none

/-- Takes the parts of a string off a text, at most `fuel` of them. -/
def readPieces (form : StringForm) : Nat → List Char → Option (List Char × List Char)
  | 0, _ => none
  | fuel + 1, s => do
    let piece ← readPiece form s
    if piece.closes then return (piece.chars, piece.rest)
    else
      let (chars, rest) ← readPieces form fuel piece.rest
      return (piece.chars ++ chars, rest)

/-- Takes a string off a text, its opening quotes being read already. -/
def readString (form : StringForm) (s : List Char) : Option (String × List Char) := do
  let (chars, rest) ← readPieces form (s.length + 1) s
  return (String.ofList chars, rest)

/-- Takes a string of one line off a text, its opening quote being read already. -/
def readLine (quote : Char) (s : List Char) : Option (String × List Char) :=
  readString ⟨quote, false⟩ s

/-- Takes a string off a text, its first quote being read already. A line end right after the
opening quotes does not belong to it. -/
def readText (quote : Char) (s : List Char) : Option (String × List Char) :=
  if [quote, quote].isPrefixOf s then
    let s := s.drop 2
    readString ⟨quote, true⟩ ((newline? s).getD s)
  else readLine quote s

example : (readText '"' "a\\u00e9\"x".toList).map (·.1) = some "aé" := by decide
example : (readText '\'' "''\na\nb''''".toList).map (·.1) = some "a\nb'" := by decide

end TestReport.Toml
