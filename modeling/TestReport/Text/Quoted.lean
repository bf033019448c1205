import TestReport.Text.CharSet

/-!
# Quoted texts in messages

A message that shows a text found in a report puts it between double quotes. A quote, a backslash
and the common controls are written with a backslash; any other character that shows nothing of its
own is written by its code point, in braces and in hexadecimal.
-/

namespace TestReport.Text

/-- The digits of a number in hexadecimal, in lower case. -/
def hexDigits (n : Nat) : List Char :=
  Nat.toDigits 16 n

/-- How a message spells one character of a quoted text. -/
def quotedChar (c : Char) : List Char :=
  if c = '"' then ['\\', '"']
  else if c = '\\' then ['\\', '\\']
  else if c = '\n' then ['\\', 'n']
  else if c = '\r' then ['\\', 'r']
  else if c = '\t' then ['\\', 't']
  else if c = '\x00' then ['\\', '0']
  else if isHidden c then ['\\', 'u', '\x7b'] ++ hexDigits c.toNat ++ ['\x7d']
  else [c]

/-- A text between double quotes, as messages show it. -/
def quoted (text : String) : String :=
  String.ofList ('"' :: text.toList.flatMap quotedChar ++ ['"'])

end TestReport.Text
