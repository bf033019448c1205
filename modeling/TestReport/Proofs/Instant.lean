import TestReport.Instant.Text
import TestReport.Proofs.Calendar
import Mathlib.Algebra.Ring.Nat

/-!
# Instants survive being written

The text of an instant reads back as the same instant (`Instant.read_text`), for every day of the
calendar: years before zero and beyond four digits, fractions of each length, and leap seconds.

Writing pads numbers with zeros up to the width of their field, and reading takes the digits of a
field off the text again. One lemma says how a reader of numbers meets such digits
(`takeNumber_append`); each field then is a case of it. What is left is that the fields resolve to
the instant (`resolve_fields`), which is where dates and day numbers have to agree.
-/

namespace TestReport

/-! ## Characters and digits -/

namespace Text

theorem digitsValue_eq_ofDigitChars (digits : List Char) :
    digitsValue digits = Nat.ofDigitChars 10 digits 0 := rfl

theorem length_le_byteCount (s : List Char) : s.length ≤ byteCount s := by
  induction s with
  | nil => exact Nat.le_refl 0
  | cons c s ih =>
    have happ : byteCount (c :: s) = byteCount [c] + byteCount s := byteCount_append [c] s
    have hpos : 0 < c.utf8Size := c.utf8Size_pos
    simp only [byteCount, List.foldl_cons, List.foldl_nil] at happ ih ⊢
    simp only [List.length_cons]
    omega

theorem isBlank_of_isDigit {c : Char} (h : c.isDigit = true) : isBlank c = false := by
  have hrange : 48 ≤ c.toNat ∧ c.toNat ≤ 57 := by
    simpa [Char.isDigit, UInt32.le_iff_toNat_le] using h
  exact isBlank_of_visible (by omega)

end Text

namespace Instant

theorem isDigit_of_mem_padded {width n : Nat} {c : Char} (h : c ∈ padded width n) :
    c.isDigit = true := by
  simp only [padded, Nat.toString_eq_ofList_toDigits, String.toList_ofList] at h
  rcases List.mem_append.1 h with h | h
  · rw [List.eq_of_mem_replicate h]
    decide
  · exact Nat.isDigit_of_mem_toDigits (by decide) (by decide) h

theorem digitsValue_padded (width n : Nat) : Text.digitsValue (padded width n) = n := by
  simp [padded, Text.digitsValue_eq_ofDigitChars, Nat.ofDigitChars_append]

theorem le_length_padded (width n : Nat) : width ≤ (padded width n).length := by
  simp [padded]
  omega

theorem length_padded {width n : Nat} (hwidth : 0 < width) (h : n < 10 ^ width) :
    (padded width n).length = width := by
  have hlength := (Nat.length_toDigits_le_iff (by decide : 1 < 10) hwidth).2 h
  simp [padded, hlength]

/-- Digits are cut off a text where they end, when the text may not go on with more of them. -/
theorem takeWhile_isDigit_append {most : Nat} {digits rest : List Char}
    (hdigits : ∀ c ∈ digits, c.isDigit = true)
    (hmost : digits.length = most ∨
      digits.length ≤ most ∧ ∀ c, rest.head? = some c → c.isDigit = false) :
    ((digits ++ rest).take most).takeWhile Char.isDigit = digits := by
  have hle : digits.length ≤ most := hmost.elim Nat.le_of_eq And.left
  have hstop : (rest.take (most - digits.length)).takeWhile Char.isDigit = [] := by
    rcases hmost with rfl | ⟨-, hhead⟩
    · rw [Nat.sub_self]
      rfl
    · cases rest with
      | nil => simp
      | cons c rest =>
        cases most - digits.length with
        | zero => rfl
        | succ k => simp [hhead c rfl]
  rw [List.take_append, List.take_of_length_le hle, List.takeWhile_append_of_pos hdigits, hstop,
    List.append_nil]

theorem takeNumber_append {least most : Nat} {digits rest : List Char}
    (hdigits : ∀ c ∈ digits, c.isDigit = true) (hleast : least ≤ digits.length)
    (hmost : digits.length = most ∨
      digits.length ≤ most ∧ ∀ c, rest.head? = some c → c.isDigit = false) :
    takeNumber least most (digits ++ rest) = .ok (Text.digitsValue digits, rest) := by
  have hbytes : ¬Text.byteCount (digits ++ rest) < least := by
    have h := Text.length_le_byteCount (digits ++ rest)
    rw [List.length_append] at h
    omega
  unfold takeNumber
  rw [takeWhile_isDigit_append hdigits hmost]
  simp only [if_neg hbytes, if_neg (Nat.not_lt.2 hleast), List.drop_left]

/-! ## Fields -/

theorem skipBlanks_cons (g : Grammar) {c : Char} (s : List Char) (h : Text.isBlank c = false) :
    skipBlanks g (c :: s) = c :: s := by
  cases g with
  | strict => rfl
  | relaxed => exact List.dropWhile_cons_of_neg (by simp [h])

theorem skipBlanks_padded (g : Grammar) {width n : Nat} (hwidth : 0 < width) (s : List Char) :
    skipBlanks g (padded width n ++ s) = padded width n ++ s := by
  cases hdigits : padded width n with
  | nil =>
    have hlength := le_length_padded width n
    rw [hdigits] at hlength
    exact absurd hlength (Nat.not_le.2 hwidth)
  | cons c digits =>
    have hdigit : c.isDigit = true :=
      isDigit_of_mem_padded (hdigits ▸ List.mem_cons_self)
    exact skipBlanks_cons g _ (Text.isBlank_of_isDigit hdigit)

theorem takeNumber_padded {least width n : Nat} (hleast : least ≤ width) (hwidth : 0 < width)
    (h : n < 10 ^ width) (s : List Char) :
    takeNumber least width (padded width n ++ s) = .ok (n, s) := by
  have hlength := length_padded hwidth h
  rw [takeNumber_append (fun _ => isDigit_of_mem_padded) (by omega) (.inl hlength),
    digitsValue_padded]

/-- A field of two digits reads as the number that it was written for. -/
theorem takeField_padded (g : Grammar) {low high n : Nat} (hlow : low ≤ n) (hhigh : n ≤ high)
    (h : n < 100) (s : List Char) :
    takeField g 2 low high (padded 2 n ++ s) = .ok (n, s) := by
  have hleast : (if g = .strict then 2 else 1) ≤ 2 := by split <;> decide
  unfold takeField
  rw [skipBlanks_padded g (by decide), takeNumber_padded hleast (by decide) h]
  simp [bind, Except.bind, pure, Except.pure, hlow, hhigh]

/-- The digits of a signed year end at the dash that follows it. -/
theorem takeNumber_signedYear (n : Nat) (s : List Char) :
    takeNumber 1 (padded 4 n ++ '-' :: s).length.succ (padded 4 n ++ '-' :: s) =
      .ok (n, '-' :: s) := by
  have hlength := le_length_padded 4 n
  have hhead : ∀ c, ('-' :: s).head? = some c → c.isDigit = false := by
    rintro c ⟨⟩
    decide
  rw [takeNumber_append (fun _ => isDigit_of_mem_padded) (by omega) (.inr ⟨?_, hhead⟩),
    digitsValue_padded]
  simp only [List.length_append]
  omega

theorem takeYear_of_isDigit {c : Char} (h : c.isDigit = true) (s : List Char) :
    takeYear .relaxed (c :: s) = (takeNumber 1 4 (c :: s)).map fun n => ((n.1 : Int), n.2) := by
  unfold takeYear
  rw [skipBlanks_cons .relaxed s (Text.isBlank_of_isDigit h)]
  simp only
  split
  next heq => cases heq; cases h
  next heq => cases heq; cases h
  · rw [if_neg (by decide)]
    cases takeNumber 1 4 (c :: s) <;> rfl

theorem takeYear_yearText {year : Int} (hlow : -twoPow 31 ≤ year) (hhigh : year < twoPow 31)
    (s : List Char) :
    takeYear .relaxed (yearText year ++ '-' :: s) = .ok (year, '-' :: s) := by
  unfold yearText
  by_cases hplain : 0 ≤ year ∧ year ≤ 9999
  · rw [if_pos hplain]
    obtain ⟨c, digits, hdigits⟩ := List.exists_cons_of_length_pos
      (Nat.lt_of_lt_of_le (by decide : 0 < 4) (le_length_padded 4 year.toNat))
    have hdigit : c.isDigit = true := isDigit_of_mem_padded (hdigits ▸ List.mem_cons_self)
    have hnumber := takeNumber_padded (by decide : 1 ≤ 4) (by decide)
      (by omega : year.toNat < 10 ^ 4) ('-' :: s)
    rw [hdigits, List.cons_append] at hnumber ⊢
    rw [takeYear_of_isDigit hdigit, hnumber]
    simp only [Except.map, Int.toNat_of_nonneg hplain.1]
  · rw [if_neg hplain]
    by_cases hneg : year < 0
    · have hrange : year.natAbs ≤ twoPow 31 := by omega
      have hvalue : -(year.natAbs : Int) = year := by omega
      rw [if_pos hneg, List.cons_append]
      simp only [takeYear, skipBlanks_cons .relaxed _ (by decide : Text.isBlank '-' = false)]
      rw [takeNumber_signedYear]
      simp only [bind, Except.bind, pure, Except.pure, hvalue]
      rw [if_pos hrange]
    · have hrange : year.natAbs < twoPow 31 := by omega
      have hvalue : (year.natAbs : Int) = year := by omega
      rw [if_neg hneg, List.cons_append]
      simp only [takeYear, skipBlanks_cons .relaxed _ (by decide : Text.isBlank '+' = false)]
      rw [takeNumber_signedYear]
      simp only [bind, Except.bind, pure, Except.pure, hvalue]
      rw [if_pos hrange]

/-- A fraction counts its last digit as the unit that its digits leave. -/
theorem takeFraction_padded {width n : Nat} (hwidth : 0 < width) (hle : width ≤ 9)
    (h : n < 10 ^ width) (s : List Char) :
    takeFraction ('.' :: (padded width n ++ 'Z' :: s)) =
      .ok (n * tenPow (9 - width), 'Z' :: s) := by
  have hlength := length_padded hwidth h
  have hdigits : ∀ c ∈ padded width n, c.isDigit = true := fun _ => isDigit_of_mem_padded
  have hmost : (padded width n).length = 9 ∨ (padded width n).length ≤ 9 ∧
      ∀ c, ('Z' :: s).head? = some c → c.isDigit = false := by
    refine .inr ⟨by omega, ?_⟩
    rintro c ⟨⟩
    decide
  have hrest : (padded width n ++ 'Z' :: s).dropWhile Char.isDigit = 'Z' :: s := by
    rw [List.dropWhile_append_of_pos hdigits]
    rfl
  unfold takeFraction
  have hnumber : takeNumber 1 9 (padded width n ++ 'Z' :: s) = .ok (n, 'Z' :: s) := by
    rw [takeNumber_append hdigits (by omega) hmost, digitsValue_padded]
  simp only [hnumber, takeWhile_isDigit_append hdigits hmost, hlength, hrest]
  rfl

theorem takeFraction_fractionText {nano : Nat} (h : nano < nanosPerSecond) (s : List Char) :
    takeFraction (fractionText nano ++ 'Z' :: s) = .ok (nano, 'Z' :: s) := by
  unfold nanosPerSecond at h
  unfold fractionText
  split
  next hzero => rw [hzero]; rfl
  split
  next hmillis =>
    rw [List.cons_append, takeFraction_padded (by decide) (by decide) (by omega)]
    have : nano / 1000000 * tenPow (9 - 3) = nano := by simp [tenPow]; omega
    rw [this]
  split
  next hmicros =>
    rw [List.cons_append, takeFraction_padded (by decide) (by decide) (by omega)]
    have : nano / 1000 * tenPow (9 - 6) = nano := by simp [tenPow]; omega
    rw [this]
  · rw [List.cons_append, takeFraction_padded (by decide) (by decide) (by omega)]
    have : nano * tenPow (9 - 9) = nano := by simp [tenPow]
    rw [this]

/-! ## Instants -/

/-- The fields under which an instant is written. -/
def fields (t : Instant) : Fields where
  year := (Calendar.civil t.day).1
  month := (Calendar.civil t.day).2.1
  day := (Calendar.civil t.day).2.2
  hour := t.second / 3600
  minute := t.second / 60 % 60
  second := t.second % 60 + t.nano / nanosPerSecond
  nano := t.nano % nanosPerSecond
  zone := 0

theorem resolve_fields (t : Instant) : t.fields.resolve = .ok t := by
  obtain ⟨day, second, nano, hday, hsecond, hnano⟩ := t
  have hself : of? day second nano = some ⟨day, second, nano, hday, hsecond, hnano⟩ :=
    of?_self ⟨day, second, nano, hday, hsecond, hnano⟩
  have hleap : (second % 60 + nano / nanosPerSecond) / 60 = nano / nanosPerSecond := by
    unfold nanosPerSecond at *
    omega
  have hseconds : ((second / 3600 : Nat) * 3600 + (second / 60 % 60 : Nat) * 60 +
      (second % 60 + nano / nanosPerSecond - nano / nanosPerSecond : Nat) - 0 : Int) = second := by
    omega
  have hday' : day + (second : Int) / secondsPerDay = day := by
    unfold secondsPerDay at *
    omega
  have hsecond' : ((second : Int) % secondsPerDay).toNat = second := by
    unfold secondsPerDay at *
    omega
  unfold Fields.resolve fields
  simp only [Calendar.isDate_civil, Calendar.dayNumber_civil]
  rw [if_neg (by simp; omega), if_neg (by decide), hleap, hseconds, hday', hsecond',
    Nat.mod_add_div', hself]

theorem takeChar_self (c : Char) (s : List Char) : takeChar c (c :: s) = .ok s :=
  if_pos rfl

theorem takeFields_text (t : Instant) :
    takeFields .relaxed t.text.toList = .ok (t.fields, []) := by
  unfold text takeFields fields
  obtain ⟨hmonth, hday⟩ := Calendar.isDate_iff.1 (Calendar.isDate_civil t.day)
  have hyear := Calendar.civil_year_range t.day_range.1 t.day_range.2
  generalize Calendar.civil t.day = date at *
  obtain ⟨year, month, day⟩ := date
  have hday31 : day ≤ 31 := Nat.le_trans hday.2 (Calendar.monthLength_le _ _)
  have hhour : t.second / 3600 ≤ 23 := by
    have h := t.second_lt
    unfold secondsPerDay at h
    omega
  have hminute : t.second / 60 % 60 ≤ 59 := by omega
  have hsecond : t.second % 60 + t.nano / nanosPerSecond ≤ 60 := by
    have h := t.nano_lt
    unfold nanosPerSecond at h ⊢
    omega
  have hnano : t.nano % nanosPerSecond < nanosPerSecond := Nat.mod_lt _ (by decide)
  have hdash := fun s => skipBlanks_cons .relaxed s (by decide : Text.isBlank '-' = false)
  have hcolon := fun s => skipBlanks_cons .relaxed s (by decide : Text.isBlank ':' = false)
  have hzone : takeZone .relaxed (skipBlanks .relaxed ['Z']) = .ok (0, []) := rfl
  have hyear := fun s => takeYear_yearText hyear.1 hyear.2 s
  have hmonth := fun s => takeField_padded .relaxed hmonth.1 hmonth.2 (by omega) s
  have hday := fun s => takeField_padded .relaxed hday.1 hday31
    (Nat.lt_of_le_of_lt hday31 (by decide)) s
  have hhour := fun s => takeField_padded .relaxed (Nat.zero_le _) hhour (by omega) s
  have hminute := fun s => takeField_padded .relaxed (Nat.zero_le _) hminute (by omega) s
  have hsecond := fun s => takeField_padded .relaxed (Nat.zero_le _) hsecond (by omega) s
  have hfraction := takeFraction_fractionText hnano []
  simp only [String.toList_ofList, List.append_assoc, List.cons_append, hyear, hmonth, hday, hhour,
    hminute, hsecond, hfraction, hzone, hdash, hcolon, takeChar_self, bind, Except.bind, pure,
    Except.pure, true_or, if_true]

theorem read_text (t : Instant) : read t.text = .ok t := by
  unfold read readWith
  rw [takeFields_text]
  exact t.resolve_fields

end Instant

end TestReport
