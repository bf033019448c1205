import TestReport.Json.Reader

/-!
# Passing over a value

A value that nobody asks for is passed over without being built. What is passed over is checked less
than what is read: containers may be nested to any depth, numbers may have any size, and escapes may
spell half of a surrogate pair. Some faults have another reason or place than in reading, because a
comma is taken before it is known what follows it.

The walk keeps the containers it is inside of on a stack and its `Stage` in one of three states: a
value has to come, a container has just been opened, or a value has just ended.
-/

namespace TestReport.Json

/-! ## Strings and numbers -/

/-- Drops what follows a backslash. -/
def skipEscape : List Char → Except Fault (List Char)
  | [] => faultAt .endInString [] 0
  | c :: s =>
    if c = 'u' then (readHexWord s).map (·.2)
    else if c ∈ ['"', '\\', '/', 'b', 'f', 'n', 'r', 't'] then .ok s
    else faultAt .invalidEscape (c :: s) 1

/-- Drops characters up to and including a closing quote, at most `fuel` of them. -/
def skipChars : Nat → List Char → Except Fault (List Char)
  | 0, s => faultAt .endInString s 0
  | _, [] => faultAt .endInString [] 0
  | fuel + 1, c :: s =>
    if c = '"' then .ok s
    else if c = '\\' then do skipChars fuel (← skipEscape s)
    else if c.toNat < 0x20 then faultAt .controlCharacter (c :: s) 0
    else skipChars fuel s

/-- Drops a string, its opening quote being dropped already. -/
def skipString (s : List Char) : Except Fault (List Char) :=
  skipChars (s.length + 1) s

/-- Drops what follows the letter of an exponent. -/
def skipExponent (s : List Char) : Except Fault (List Char) :=
  let s :=
    match s with
    | '+' :: r => r
    | '-' :: r => r
    | _ => s
  if s.head?.any Char.isDigit then .ok (s.dropWhile Char.isDigit) else faultAt .invalidNumber s 1

/-- Drops an exponent if there is one. -/
def skipTail (s : List Char) : Except Fault (List Char) :=
  match s with
  | 'e' :: r => skipExponent r
  | 'E' :: r => skipExponent r
  | _ => .ok s

/-- Drops a number, its sign being dropped already. -/
def skipNumber (s : List Char) : Except Fault (List Char) :=
  match s with
  | [] => faultAt .invalidNumber [] 0
  | c :: r =>
    if !c.isDigit then faultAt .invalidNumber (c :: r) 1
    else if c = '0' ∧ r.head?.any Char.isDigit then faultAt .invalidNumber r 1
    else
      match s.dropWhile Char.isDigit with
      | '.' :: t =>
        if t.head?.any Char.isDigit then skipTail (t.dropWhile Char.isDigit)
        else faultAt .invalidNumber t 1
      | t => skipTail t

/-! ## The walk -/

/-- A container around the place of the walk. -/
inductive Container
  | list
  | object
deriving DecidableEq, Repr

/-- What has to come next. -/
inductive Stage
  | value
  | opened
  | ended
deriving DecidableEq, Repr

/-- The bracket that closes a container. -/
def Container.close : Container → Char
  | list => ']'
  | object => '\x7d'

/-- What is said when a text ends inside a container. -/
def Container.unfinished : Container → Malformed
  | list => .endInList
  | object => .endInObject

/-- What is said when neither a comma nor the closing bracket follows a value. -/
def Container.unclosed : Container → Malformed
  | list => .expectedListEnd
  | object => .expectedObjectEnd

/-- Drops the key and the colon before a value, where there is a key. -/
def skipKey (container : Container) (s : List Char) : Except Fault (List Char) :=
  match container with
  | .list => .ok s
  | .object =>
    match skipSpace s with
    | [] => faultAt .endInObject [] 0
    | c :: r =>
      if c = '"' then do readColon (← skipString r) else faultAt .keyNotString (c :: r) 1

/-- Drops a value that is no container; nothing when the text starts with none. -/
def skipAtom? (c : Char) (r : List Char) : Option (Except Fault (List Char)) :=
  if c = 'n' then some (readWord "ull".toList r)
  else if c = 't' then some (readWord "rue".toList r)
  else if c = 'f' then some (readWord "alse".toList r)
  else if c = '-' then some (skipNumber r)
  else if c.isDigit then some (skipNumber (c :: r))
  else if c = '"' then some (skipString r)
  else none

/-- Walks to the end of the outermost value, in at most `fuel` steps. -/
def skipFrom : Nat → Stage → List Container → List Char → Except Fault (List Char)
  | 0, _, _, s => faultAt .endInValue s 0
  | fuel + 1, .value, stack, s =>
    match skipSpace s with
    | [] => faultAt .endInValue [] 0
    | c :: r =>
      if c = '[' then skipFrom fuel .opened (.list :: stack) r
      else if c = '{' then skipFrom fuel .opened (.object :: stack) r
      else
        match skipAtom? c r with
        | some skipped => do skipFrom fuel .ended stack (← skipped)
        | none => faultAt .expectedValue (c :: r) 1
  | _ + 1, _, [], s => .ok s
  | fuel + 1, stage, container :: stack, s =>
    match skipSpace s with
    | [] => faultAt container.unfinished [] 0
    | c :: r =>
      if c = container.close then skipFrom fuel .ended stack r
      else if stage = .opened then do
        skipFrom fuel .value (container :: stack) (← skipKey container (c :: r))
      else if c = ',' then do skipFrom fuel .value (container :: stack) (← skipKey container r)
      else faultAt container.unclosed (c :: r) 1

/-- Drops a value. -/
def skipValue (s : List Char) : Except Fault (List Char) :=
  skipFrom (2 * s.length + 3) .value [] s

end TestReport.Json
