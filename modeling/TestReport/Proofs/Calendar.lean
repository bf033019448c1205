import TestReport.Instant.Basic
import TestReport.Number.Power

/-!
# Dates and day numbers agree

`Calendar.civil` turns a number of days into a date by a few lines of arithmetic, and
`Calendar.dayNumber` turns a date into a number of days by a few others. Here the two are shown to
fit: the date of a day is a date that exists (`isDate_civil`), and its number is that day
(`dayNumber_civil`).

Between the two stands the *place* of a day in its cycle of 400 years (`Place`): a year of the
cycle, a month of that year and a day of that month, all counted from zero and from March. Every day
has a place (`exists_place`), where the work is to see that the quotients which `civil` takes find
the year. What a place says of dates and of day numbers then is arithmetic in small ranges.
-/

namespace TestReport.Calendar

/-! ## Years of a cycle -/

/-- The number of days of a cycle before its year `y`. -/
def yearStart (y : Int) : Int :=
  365 * y + y / 4 - y / 100 + y / 400

/-- The year of a cycle to which its day `c` belongs. -/
def yearOfCycle (c : Int) : Int :=
  (c - c / 1460 + c / 36524 - c / 146096) / 365

/-- A year since March has a leap day when the year in which it ends is a leap year. -/
theorem yearStart_succ (y : Int) :
    yearStart (y + 1) = yearStart y + if isLeapYear (y + 1) then 366 else 365 := by
  simp only [yearStart, isLeapYear, Bool.and_eq_true, Bool.or_eq_true, beq_iff_eq, bne_iff_ne]
  split <;> omega

theorem isLeapYear_add_cycle (c y : Int) : isLeapYear (c * 400 + y) = isLeapYear y := by
  have h4 : (c * 400 + y) % 4 = y % 4 := by omega
  have h100 : (c * 400 + y) % 100 = y % 100 := by omega
  have h400 : (c * 400 + y) % 400 = y % 400 := by omega
  simp only [isLeapYear, h4, h100, h400]

/-- The year of a day is the one between whose start and end the day lies. -/
theorem yearOfCycle_spec {c : Int} (h0 : 0 ≤ c) (h1 : c < 146097) :
    0 ≤ yearOfCycle c ∧ yearOfCycle c < 400 ∧ yearStart (yearOfCycle c) ≤ c ∧
      c < yearStart (yearOfCycle c + 1) := by
  rcases Int.lt_or_eq_of_le (Int.le_sub_one_of_lt h1) with hlt | rfl
  · -- Once the century is known, all quotients are linear in the year and in the leap days before.
    have hlast : c / 146096 = 0 := by omega
    have hcentury : c / 36524 = 0 ∨ c / 36524 = 1 ∨ c / 36524 = 2 ∨ c / 36524 = 3 := by omega
    obtain ⟨y, hy⟩ : ∃ y, y = yearOfCycle c := ⟨_, rfl⟩
    rw [← hy, yearStart_succ]
    rw [yearOfCycle, hlast] at hy
    have hrange : 0 ≤ y ∧ y < 400 := by omega
    have h100 : y / 100 = c / 36524 := by
      rcases hcentury with h | h | h | h <;> rw [h] at hy ⊢ <;> omega
    have h4 : y / 4 = c / 1460 ∨ y / 4 = c / 1460 - 1 := by
      rcases hcentury with h | h | h | h <;> rw [h] at hy <;> omega
    have hleap : isLeapYear (y + 1) = true ∨ y % 4 ≠ 3 ∨ y % 100 = 99 ∧ y % 400 ≠ 399 := by
      simp only [isLeapYear, Bool.and_eq_true, Bool.or_eq_true, beq_iff_eq, bne_iff_ne]
      omega
    unfold yearStart
    refine ⟨hrange.1, hrange.2, ?_, ?_⟩
    · rcases h4 with h4 | h4 <;> rcases hcentury with h | h | h | h <;>
        rw [h] at hy h100 <;> omega
    · rcases hleap with hleap | hleap
      · rw [if_pos hleap]
        rcases h4 with h4 | h4 <;> rcases hcentury with h | h | h | h <;>
          rw [h] at hy h100 <;> omega
      · have hlength : (365 : Int) ≤ if isLeapYear (y + 1) then 366 else 365 := by
          split <;> decide
        rcases hleap with hleap | hleap <;> rcases h4 with h4 | h4 <;>
          rcases hcentury with h | h | h | h <;> rw [h] at hy h100 <;> omega
  · decide

/-! ## Months of a year -/

/-- The number of days of a year since March before its month `m`. -/
def monthStart (m : Int) : Int :=
  (153 * m + 2) / 5

theorem month_spec {d : Int} (h0 : 0 ≤ d) (h1 : d ≤ 365) :
    0 ≤ (5 * d + 2) / 153 ∧ (5 * d + 2) / 153 ≤ 11 ∧ monthStart ((5 * d + 2) / 153) ≤ d ∧
      d < monthStart ((5 * d + 2) / 153 + 1) := by
  unfold monthStart
  omega

/-! ## Places -/

/-- The place of a day among the cycles, years and months since March, all counted from zero. -/
structure Place where
  cycle : Int
  year : Int
  month : Int
  day : Int
  year_range : 0 ≤ year ∧ year < 400
  month_range : 0 ≤ month ∧ month ≤ 11
  day_range : 0 ≤ day ∧ day < monthStart (month + 1) - monthStart month
  day_of_year_lt : monthStart month + day < if isLeapYear (year + 1) then 366 else 365

namespace Place

/-- The number of days from 1970-01-01 to the day at a place. -/
def number (p : Place) : Int :=
  p.cycle * 146097 + yearStart p.year + monthStart p.month + p.day - 719468

/-- The date of the day at a place. -/
def date (p : Place) : Int × Nat × Nat :=
  if p.month < 10 then (p.cycle * 400 + p.year, p.month.toNat + 3, p.day.toNat + 1)
  else (p.cycle * 400 + p.year + 1, p.month.toNat - 9, p.day.toNat + 1)

theorem dayNumber_date (p : Place) : dayNumber p.date.1 p.date.2.1 p.date.2.2 = p.number := by
  obtain ⟨c, y, m, d, hy, hm, hd, -⟩ := p
  have hstart : yearStart y = y * 365 + y / 4 - y / 100 := by
    unfold yearStart
    omega
  unfold dayNumber date number
  rw [hstart]
  simp only
  unfold monthStart
  split <;> simp only
  · rw [if_neg (by omega)]
    have hyear : (c * 400 + y) % 400 = y := by omega
    have hcycle : (c * 400 + y) / 400 = c := by omega
    have hmonth : ((m.toNat + 3 + 9) % 12 : Nat) = m := by omega
    rw [hyear]
    omega
  · rw [if_pos (by omega)]
    have hyear : (c * 400 + y + 1 - 1) % 400 = y := by omega
    have hcycle : (c * 400 + y) / 400 = c := by omega
    have hmonth : ((m.toNat - 9 + 9) % 12 : Nat) = m := by omega
    rw [hyear]
    omega

end Place

theorem isDate_iff {year : Int} {month day : Nat} :
    isDate year month day = true ↔
      (1 ≤ month ∧ month ≤ 12) ∧ 1 ≤ day ∧ day ≤ monthLength year month := by
  simp [isDate, and_assoc]

theorem Place.isDate_date (p : Place) : isDate p.date.1 p.date.2.1 p.date.2.2 = true := by
  obtain ⟨c, y, m, d, hy, hm, hd, hlt⟩ := p
  have hmonth : m = 0 ∨ m = 1 ∨ m = 2 ∨ m = 3 ∨ m = 4 ∨ m = 5 ∨ m = 6 ∨ m = 7 ∨ m = 8 ∨ m = 9 ∨
      m = 10 ∨ m = 11 := by omega
  rw [isDate_iff]
  unfold Place.date monthLength
  unfold monthStart at hd hlt
  rcases hmonth with rfl | rfl | rfl | rfl | rfl | rfl | rfl | rfl | rfl | rfl | rfl | rfl
  case inr.inr.inr.inr.inr.inr.inr.inr.inr.inr.inr =>
    -- February, the last month: its length goes by the year in which it lies.
    cases hleap : isLeapYear (y + 1) <;>
      simp [Int.add_assoc, isLeapYear_add_cycle, hleap] at hd hlt ⊢ <;> omega
  all_goals
    simp at hd hlt ⊢
    omega

/-! ## Dates of days -/

/-- Every day has a place, and its date is the one at that place. -/
theorem exists_place (n : Int) : ∃ p : Place, p.number = n ∧ p.date = civil n := by
  obtain ⟨c, hc⟩ : ∃ c, c = (n + 719468) % 146097 := ⟨_, rfl⟩
  obtain ⟨hy0, hy1, hlow, hhigh⟩ := yearOfCycle_spec (by omega : 0 ≤ c) (by omega)
  have hstart : yearStart (yearOfCycle c) =
      365 * yearOfCycle c + yearOfCycle c / 4 - yearOfCycle c / 100 := by
    unfold yearStart
    omega
  obtain ⟨d, hd⟩ : ∃ d, d = c - yearStart (yearOfCycle c) := ⟨_, rfl⟩
  have hlt : d < if isLeapYear (yearOfCycle c + 1) then 366 else 365 := by
    rw [yearStart_succ] at hhigh
    clear hc hstart
    omega
  have hd0 : 0 ≤ d := by
    clear hc hstart
    omega
  have hd365 : d ≤ 365 := by
    clear hc hstart hhigh hlow hd
    split at hlt <;> omega
  obtain ⟨hm0, hm1, hmlow, hmhigh⟩ := month_spec hd0 hd365
  refine ⟨⟨(n + 719468) / 146097, yearOfCycle c, (5 * d + 2) / 153,
    d - monthStart ((5 * d + 2) / 153), ⟨hy0, hy1⟩, ⟨hm0, hm1⟩, ?_, ?_⟩, ?_, ?_⟩
  · exact ⟨Int.sub_nonneg_of_le hmlow, Int.sub_lt_sub_right hmhigh _⟩
  · rw [Int.add_comm, Int.sub_add_cancel]
    exact hlt
  · unfold Place.number
    simp only
    rw [hd]
    clear hstart hhigh hlow hlt hd0 hd365 hmlow hmhigh hm0 hm1 hd
    omega
  · have hcivil : civil n =
        let m := (5 * d + 2) / 153
        let month := if m < 10 then m + 3 else m - 9
        let year := yearOfCycle c + (n + 719468) / 146097 * 400
        (if month ≤ 2 then year + 1 else year, month.toNat, (d - monthStart m + 1).toNat) := by
      rw [hd, hstart, hc]
      rfl
    rw [hcivil]
    unfold Place.date
    simp only
    clear hcivil hc hstart hhigh hlow hlt hd
    generalize monthStart ((5 * d + 2) / 153) = s at *
    generalize (5 * d + 2) / 153 = m at *
    clear hd0 hd365 hmhigh
    split
    · rw [if_neg (by omega)]
      refine Prod.ext (by simp; omega) (Prod.ext (by simp; omega) (by simp; omega))
    · rw [if_pos (by omega)]
      refine Prod.ext (by simp; omega) (Prod.ext (by simp; omega) (by simp; omega))

/-- The number of the date of a day is that day. -/
theorem dayNumber_civil (n : Int) : dayNumber (civil n).1 (civil n).2.1 (civil n).2.2 = n := by
  obtain ⟨p, hnumber, hdate⟩ := exists_place n
  rw [← hdate, p.dayNumber_date, hnumber]

/-- The date of a day exists. -/
theorem isDate_civil (n : Int) : isDate (civil n).1 (civil n).2.1 (civil n).2.2 = true := by
  obtain ⟨p, -, hdate⟩ := exists_place n
  rw [← hdate]
  exact p.isDate_date

theorem monthLength_le (year : Int) (month : Nat) : monthLength year month ≤ 31 := by
  unfold monthLength
  split
  · split <;> decide
  · split <;> decide

/-- The years of the days of the calendar stay far within what a text can say. -/
theorem civil_year_range {n : Int} (hlow : firstDay ≤ n) (hhigh : n ≤ lastDay) :
    -twoPow 31 ≤ (civil n).1 ∧ (civil n).1 < twoPow 31 := by
  obtain ⟨⟨c, y, m, d, hy, hm, hd, hlt⟩, hnumber, hdate⟩ := exists_place n
  have hyears : 0 ≤ yearStart y ∧ yearStart y ≤ 200000 := by
    unfold yearStart
    omega
  have hmonths : 0 ≤ monthStart m := by
    unfold monthStart
    omega
  have hdays : d + monthStart m ≤ 365 := by split at hlt <;> omega
  have hpow : (twoPow 31 : Int) = 2147483648 := by decide
  unfold Place.number at hnumber
  unfold firstDay at hlow
  unfold lastDay at hhigh
  simp only at hnumber
  rw [← hdate]
  unfold Place.date
  simp only
  split <;> simp only <;> omega

end TestReport.Calendar
