import TestReport.Text.Split

/-!
# Patterns of file names

A pattern is matched against one name. Most characters stand for themselves; `?` stands for any one
character, `*` for any number of them, `[ab-z]` for one of a set and `[!ab-z]` for one outside it. A
bracket right behind the start of a set belongs to it. The pattern `**` is not matched against a
name: it stands for directories at any depth.

A pattern is malformed when a set does not close, or when asterisks stand together in any other way.
-/

namespace TestReport.Glob

/-- A range of characters. -/
structure Range where
  first : Char
  last : Char
deriving DecidableEq, Repr

/-- A part of a pattern. -/
inductive Token
  | char (c : Char)
  | anyChar
  | anyRun
  | oneOf (set : List Range)
  | noneOf (set : List Range)
deriving DecidableEq, Repr

/-- Whether a set holds a character. -/
def isIn (set : List Range) (c : Char) : Bool :=
  set.any fun range => range.first ≤ c && c ≤ range.last

/-- Whether a part of a pattern stands for a character. -/
def Token.accepts (c : Char) : Token → Bool
  | char d => c == d
  | anyChar | anyRun => true
  | oneOf set => isIn set c
  | noneOf set => !isIn set c

/-- The character that a part of a pattern is, when it stands for that one alone. -/
def Token.char? : Token → Option Char
  | char c => some c
  | _ => none

/-- Whether some end of a text has a property. -/
def anyEnd (p : List Char → Bool) : List Char → Bool
  | [] => p []
  | c :: rest => p (c :: rest) || anyEnd p rest

/-- Whether a pattern matches a name. -/
def matchesName : List Token → List Char → Bool
  | [], name => name.isEmpty
  | .anyRun :: tokens, name => anyEnd (matchesName tokens) name
  | _ :: _, [] => false
  | token :: tokens, c :: name => token.accepts c && matchesName tokens name

/-! ## Reading -/

/-- The ranges that the inside of a set spells. -/
def ranges : List Char → List Range
  | first :: '-' :: last :: rest => ⟨first, last⟩ :: ranges rest
  | c :: rest => ⟨c, c⟩ :: ranges rest
  | [] => []

/-- Takes a set off a pattern, up to and including its closing bracket. -/
def takeSet : List Char → Option (List Range × List Char)
  | [] => none
  | c :: s =>
    match s.dropWhile (· != ']') with
    | _ :: rest => some (ranges (c :: s.takeWhile (· != ']')), rest)
    | [] => none

/-- Takes the next part off a pattern. -/
def takeToken : List Char → Option (Token × List Char)
  | [] => none
  | c :: s =>
    if c = '?' then some (.anyChar, s)
    else if c = '*' then if s.head? = some '*' then none else some (.anyRun, s)
    else if c = '[' then
      match s with
      | '!' :: s => (takeSet s).map fun (set, s) => (.noneOf set, s)
      | s => (takeSet s).map fun (set, s) => (.oneOf set, s)
    else some (.char c, s)

/-- The parts of a pattern, at most `fuel` of them. -/
def tokensWithin? : Nat → List Char → Option (List Token)
  | _, [] => some []
  | 0, _ => none
  | fuel + 1, s => do
    let (token, s) ← takeToken s
    return token :: (← tokensWithin? fuel s)

/-- What stands between two slashes of a path pattern. -/
inductive Segment
  /-- Directories at any depth. -/
  | anyDepth
  | name (tokens : List Token)
deriving DecidableEq, Repr

namespace Segment

/-- The segment that a text spells; nothing when it is malformed. -/
def ofText? (s : List Char) : Option Segment :=
  if s = ['*', '*'] then some anyDepth else (tokensWithin? s.length s).map name

/-- The name that a segment is, when it stands for that name alone. -/
def literal? : Segment → Option String
  | anyDepth => none
  | name tokens =>
    (tokens.mapM Token.char?).map String.ofList

/-- Whether a segment matches the name of what is in a directory. -/
def accepts (s : Segment) (found : String) : Bool :=
  match s with
  | anyDepth => false
  | name tokens => matchesName tokens found.toList

/-- Whether a segment starts with a dot of its own. Only such a segment stands for the directory
itself or the one above it. -/
def startsWithDot : Segment → Bool
  | name (.char '.' :: _) => true
  | _ => false

end Segment

example : (Segment.ofText? "[!a]*.json".toList).any (·.accepts "b.json") = true := by decide
example : Segment.ofText? "a**".toList = none := by decide

end TestReport.Glob
