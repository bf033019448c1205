import TestReport.Json.Scan

/-!
# Tagged values

A tagged value says by a word which of several records it is. It is an object with the word under a
tag, at any place among its members, or an array that starts with the word. The word is checked
where it stands in the text; the members or items beside it are read as they are and become the
*content*, whose shape depends on the word.
-/

namespace TestReport.Json

/-- A word of a closed set with the rest of the value that it tags. -/
structure Tagged where
  word : String
  content : Json

/-- Takes the word of a tag off a text. -/
def scanTag (known : List String) (s : List Char) : Except Fault (String × List Char) := do
  let (w, t) ← scanString "variant identifier" s
  if known.contains w then return (w, t) else mismatchAt (.unknownVariant w known) t

/-- Takes the members of a tagged object off a text, in at most `fuel` steps: the word, and the
other members. -/
def scanTaggedMembers (tag : String) (known : List String) (depth : Nat) :
    Nat → Bool → Option String → List Char →
      Except Fault ((String × List (String × Json)) × List Char)
  | 0, _, _, s => faultAt .endInObject s 0
  | fuel + 1, first, word, s => do
    match ← nextKey first s with
    | (none, s) =>
      match word with
      | some w => return ((w, []), s)
      | none => mismatchAt (.missing tag) s
    | (some key, s) =>
      if key = tag then
        if word.isSome then mismatchAt (.duplicate tag) (afterBrace s)
        else
          let (w, s) ← scanTag known (← readColon s)
          scanTaggedMembers tag known depth fuel false (some w) s
      else
        let (v, s) ← readValue depth (← readColon s)
        let ((w, ms), s) ← scanTaggedMembers tag known depth fuel false word s
        return ((w, (key, v) :: ms), s)

/-- Takes a tagged value off a text; messages call it by `title`. -/
def scanTagged (title tag : String) (known : List String) (s : List Char) :
    Except Fault (Tagged × List Char) :=
  match skipSpace s with
  | '{' :: r => do
    let ((w, ms), t) ← scanTaggedMembers tag known (nestingLimit - 1) (r.length + 1) true none r
    return (⟨w, obj ms⟩, t)
  | '[' :: r => do
    match ← nextItem true r with
    | (false, t) => mismatchAt (.missing tag) t
    | (true, t) =>
      let (w, t) ← scanTag known t
      let (vs, t) ← readItems (readValue (nestingLimit - 1)) (t.length + 1) false t
      return (⟨w, arr vs⟩, t)
  | _ => wrongTypeAt title s

end TestReport.Json
