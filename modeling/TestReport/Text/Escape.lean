/-!
# Terminal escape sequences

Reporters leave the colours and cursor moves of a terminal in the messages they write. A sequence
starts with the escape character and goes on in one of two ways:

* a *control sequence*: an opening bracket, then parameters (digits, `;`, `?`), then intermediates
  (space to `/`), then one final character (`@` to `~`);
* a *short sequence*: one character from `@` to `_`, the opening bracket excepted.

An escape character that starts neither is ordinary text. `stripEscapes` removes every sequence in
one pass from left to right. Parameters, intermediates and final characters are disjoint classes, so
the longest run of each is the only way to read a control sequence and no choice has to be undone.
-/

namespace TestReport.Text

/-- The escape character. -/
def escape : Char := '\x1b'

/-- Parameters of a control sequence. -/
def isParameter (c : Char) : Bool :=
  c.isDigit || c == ';' || c == '?'

/-- Intermediate characters of a control sequence. -/
def isIntermediate (c : Char) : Bool :=
  ' ' ≤ c && c ≤ '/'

/-- Characters that end a control sequence. -/
def isFinal (c : Char) : Bool :=
  '@' ≤ c && c ≤ '~'

/-- Characters that make a sequence together with the escape character alone. -/
def isShortFinal (c : Char) : Bool :=
  ('@' ≤ c && c ≤ 'Z') || ('\\' ≤ c && c ≤ '_')

/-- The length of the sequence that an escape character starts, that character not counted, when
the text after it is given; nothing when it starts none. -/
def sequenceLength? : List Char → Option Nat
  | [] => none
  | c :: rest =>
    if c = '[' then
      let parameters := rest.takeWhile isParameter
      let rest := rest.dropWhile isParameter
      let intermediates := rest.takeWhile isIntermediate
      match rest.dropWhile isIntermediate with
      | d :: _ => if isFinal d then some (parameters.length + intermediates.length + 2) else none
      | [] => none
    else if isShortFinal c then some 1
    else none

/-- What is left of a text without its escape sequences, when the first `skip` characters belong to
a sequence that has been found already. -/
def stripAfter (skip : Nat) : List Char → List Char
  | [] => []
  | c :: rest =>
    match skip with
    | n + 1 => stripAfter n rest
    | 0 =>
      if c = escape then
        match sequenceLength? rest with
        | some n => stripAfter n rest
        | none => c :: stripAfter 0 rest
      else c :: stripAfter 0 rest

/-- A text without its escape sequences. -/
def stripEscapes (text : List Char) : List Char :=
  stripAfter 0 text

/-- The escape character starts no sequence at the end of a text. -/
theorem sequenceLength?_nil : sequenceLength? [] = none := rfl

/-- A character other than the escape character is kept. -/
theorem stripEscapes_cons {c : Char} (h : c ≠ escape) (rest : List Char) :
    stripEscapes (c :: rest) = c :: stripEscapes rest := by
  simp [stripEscapes, stripAfter, h]

example : stripEscapes "\x1b[1;32mok\x1b[0m \x1b[2K!".toList = "ok !".toList := by decide

end TestReport.Text
