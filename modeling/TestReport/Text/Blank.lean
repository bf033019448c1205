/-!
# Blank characters

The blank characters are the 25 code points that have the Unicode property `White_Space`. They are
narrower than what an editor shows as empty: the zero-width space and the byte-order mark are not
among them, the next-line control and the ideographic space are.

This file fixes the class `isBlank` and the three ways of trimming it from a text. Texts are lists
of characters here, so that trimming is `List.dropWhile` and its lemmas apply as they are. What the
rest of the library uses is that trimming loses nothing but blanks (`exists_blank_append_trimStart`)
and that nothing blank is left at the trimmed end (`head_trimStart`).
-/

namespace TestReport.Text

/-! ## The class -/

/-- Whether a character has the Unicode property `White_Space`. -/
def isBlank (c : Char) : Bool :=
  let n := c.toNat
  (9 ≤ n && n ≤ 13) || n == 32 || n == 0x85 || n == 0xA0 || n == 0x1680 ||
    (0x2000 ≤ n && n ≤ 0x200A) || n == 0x2028 || n == 0x2029 || n == 0x202F || n == 0x205F ||
    n == 0x3000

/-- Every blank of the core library is a blank here. -/
theorem isBlank_of_isWhitespace {c : Char} (h : c.isWhitespace = true) : isBlank c = true := by
  simp only [Char.isWhitespace, Bool.or_eq_true, decide_eq_true_eq] at h
  rcases h with ((h | h) | h) | h <;> subst h <;> decide

/-- No visible ASCII character is blank. -/
theorem isBlank_of_visible {c : Char} (h : 32 < c.toNat ∧ c.toNat < 127) : isBlank c = false := by
  simp only [isBlank, Bool.or_eq_false_iff, Bool.and_eq_false_iff, decide_eq_false_iff_not,
    beq_eq_false_iff_ne]
  omega

/-! ## Trimming -/

/-- A text without its leading blanks. -/
def trimStart (s : List Char) : List Char :=
  s.dropWhile isBlank

/-- A text without its trailing blanks. -/
def trimEnd (s : List Char) : List Char :=
  (s.reverse.dropWhile isBlank).reverse

/-- A text without the blanks at either end. -/
def trim (s : List Char) : List Char :=
  trimEnd (trimStart s)

/-- Whether a text holds blanks only, or nothing. -/
def isAllBlank (s : List Char) : Bool :=
  (trim s).isEmpty

/-- A text is its leading blanks followed by what trimming leaves. -/
theorem exists_blank_append_trimStart (s : List Char) :
    ∃ w : List Char, (∀ c ∈ w, isBlank c = true) ∧ w ++ trimStart s = s :=
  ⟨s.takeWhile isBlank, List.all_eq_true.1 List.all_takeWhile, List.takeWhile_append_dropWhile⟩

/-- What trimming leaves does not start with a blank. -/
theorem head_trimStart {s r : List Char} {c : Char} (h : trimStart s = c :: r) :
    isBlank c = false := by
  have h' := List.head?_dropWhile_not isBlank s
  rw [show s.dropWhile isBlank = c :: r from h] at h'
  simpa using h'

end TestReport.Text
