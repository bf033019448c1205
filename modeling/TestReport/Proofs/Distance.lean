import TestReport.Instant.Basic
import TestReport.Number.Saturating
import Mathlib.Tactic.SplitIfs

/-!
# The time between two instants

Instants are in the order of their days, seconds and fractions, and a leap second comes before the
second that follows it (`before`, a strict linear order).

How far one instant is from another depends on which leap seconds are counted. A leap second in
which one of the two lies is a second of its own if it is over when the other one is reached
(`distance`). Said by day and second (`IsOver`), this is the distance that goes with the order: it
is positive exactly if the first instant comes before the second (`before_iff_distance_pos`), and in
whole milliseconds it is `millisUntil`. The difference `nanosSince` goes by the time of day alone
(`IsOverInDay`). Where no leap second is involved, or both instants are of one day, that makes no
difference (`distance_isOverInDay_eq_of_day_eq`). Otherwise a leap second at midnight is not
counted, so that the difference can have the wrong sign.
-/

namespace TestReport.Instant

/-! ## Order -/

theorem before_iff {a b : Instant} :
    a.before b = true ↔
      a.day < b.day ∨
        a.day = b.day ∧ (a.second < b.second ∨ a.second = b.second ∧ a.nano < b.nano) := by
  simp [before]

theorem before_irrefl (a : Instant) : a.before a = false := by
  rw [← Bool.not_eq_true, before_iff]
  omega

theorem before_trans {a b c : Instant} (hab : a.before b = true) (hbc : b.before c = true) :
    a.before c = true := by
  rw [before_iff] at *
  omega

/-- Of two instants one comes before the other, unless they are the same. -/
theorem eq_of_not_before {a b : Instant} (hab : a.before b = false) (hba : b.before a = false) :
    a = b := by
  rw [← Bool.not_eq_true, before_iff] at hab hba
  obtain ⟨hday, hsecond, hnano⟩ : a.day = b.day ∧ a.second = b.second ∧ a.nano = b.nano := by omega
  cases a
  cases b
  simp_all

/-- What an instant does not come before stays so for every later instant. -/
theorem not_before_of_before {a b c : Instant} (hab : a.before b = true)
    (hac : a.before c = false) : b.before c = false := by
  rw [← Bool.not_eq_true] at hac ⊢
  intro hbc
  exact hac (before_trans hab hbc)

/-- An instant with a property is the latest one if it comes before no other that has it. -/
structure IsLatest (P : Instant → Prop) (t : Instant) : Prop where
  holds : P t
  not_before : ∀ s, P s → t.before s = false

theorem IsLatest.eq {P : Instant → Prop} {s t : Instant} (hs : IsLatest P s) (ht : IsLatest P t) :
    s = t :=
  eq_of_not_before (hs.not_before t ht.holds) (ht.not_before s hs.holds)

/-! ## Distance -/

/-- Whether an instant lies in a leap second. -/
def InLeapSecond (t : Instant) : Prop :=
  nanosPerSecond ≤ t.nano

instance (t : Instant) : Decidable t.InLeapSecond :=
  inferInstanceAs (Decidable (_ ≤ _))

/-- Whether the second of an instant is over at another one. -/
def IsOver (a b : Instant) : Prop :=
  a.day < b.day ∨ a.day = b.day ∧ a.second < b.second

instance : DecidableRel IsOver := fun a b =>
  inferInstanceAs (Decidable (a.day < b.day ∨ a.day = b.day ∧ a.second < b.second))

/-- Whether the second of an instant is over at another one as far as the time of day shows. -/
def IsOverInDay (a b : Instant) : Prop :=
  a.second < b.second

instance : DecidableRel IsOverInDay := fun a b =>
  inferInstanceAs (Decidable (a.second < b.second))

/-- The nanoseconds of an instant since the start of 1970 where no leap second is counted: a leap
second has those of the second that follows it. -/
def clockNanos (t : Instant) : Int :=
  (t.day * secondsPerDay + t.second) * nanosPerSecond + t.nano

/-- The nanoseconds from a start to a finish. A leap second in which one of them lies is counted if
it is over, in the given sense, at the other one. -/
def distance (ended : Instant → Instant → Prop) [DecidableRel ended] (start finish : Instant) :
    Int :=
  finish.clockNanos - start.clockNanos +
    (if start.InLeapSecond ∧ ended start finish then (nanosPerSecond : Int) else 0) -
    (if finish.InLeapSecond ∧ ended finish start then (nanosPerSecond : Int) else 0)

theorem nano_lt_two_mul (t : Instant) : t.nano < 2 * nanosPerSecond := by
  have h := t.nano_lt
  omega

theorem distance_comm (ended : Instant → Instant → Prop) [DecidableRel ended]
    (start finish : Instant) : distance ended finish start = -distance ended start finish := by
  unfold distance
  omega

/-- The difference of two instants counts leap seconds by the time of day. -/
theorem nanosSince_eq_distance (finish start : Instant) :
    finish.nanosSince start = distance IsOverInDay start finish := by
  unfold nanosSince distance clockNanos InLeapSecond IsOverInDay secondsPerDay nanosPerSecond
  dsimp only
  split_ifs <;> omega

/-- The distance that goes by day and second has the sign of the order. -/
theorem before_iff_distance_pos {start finish : Instant} :
    start.before finish = true ↔ 0 < distance IsOver start finish := by
  have hstart := start.nano_lt_two_mul
  have hfinish := finish.nano_lt_two_mul
  have hstartSecond := start.second_lt
  have hfinishSecond := finish.second_lt
  rw [before_iff]
  unfold distance clockNanos InLeapSecond IsOver secondsPerDay nanosPerSecond at *
  split_ifs <;> omega

/-- Within a day both senses of being over agree. -/
theorem distance_isOverInDay_eq_of_day_eq {start finish : Instant} (h : start.day = finish.day) :
    distance IsOverInDay start finish = distance IsOver start finish := by
  have hover {a b : Instant} (hday : a.day = b.day) : IsOverInDay a b ↔ IsOver a b := by
    simp [IsOverInDay, IsOver, hday]
  simp only [distance, hover h, hover h.symm]

/-- Without leap seconds it does not matter which ones are counted. -/
theorem distance_isOverInDay_eq_of_not_inLeapSecond {start finish : Instant}
    (hstart : ¬start.InLeapSecond) (hfinish : ¬finish.InLeapSecond) :
    distance IsOverInDay start finish = distance IsOver start finish := by
  simp [distance, hstart, hfinish]

/-! ## Whole milliseconds -/

/-- The whole milliseconds from a start to a finish, or none if the finish comes before the
start. -/
def millisUntil (start finish : Instant) : Nat :=
  if finish.before start then 0 else (distance IsOver start finish / 1000000).toNat

/-- A negative distance gives no milliseconds either. -/
theorem millisUntil_eq (start finish : Instant) :
    start.millisUntil finish = (distance IsOver start finish / 1000000).toNat := by
  unfold millisUntil
  split
  · next hbefore =>
    have hpos := before_iff_distance_pos.1 hbefore
    rw [distance_comm] at hpos
    omega
  · rfl

/-- No two instants of the calendar are so far apart that the milliseconds between them do not fit
into a word. -/
theorem distance_lt (ended : Instant → Instant → Prop) [DecidableRel ended]
    (start finish : Instant) : distance ended start finish < maxWord * 1000000 := by
  have hstart := start.day_range
  have hfinish := finish.day_range
  have hnano := finish.nano_lt_two_mul
  have hsecond := finish.second_lt
  have hmax : maxWord = 18446744073709551615 := by decide
  rw [hmax]
  unfold distance clockNanos firstDay lastDay secondsPerDay nanosPerSecond at *
  split_ifs <;> omega

/-- The milliseconds of a difference, cut to a word. -/
theorem toNat_wordOfNat_millisSince (finish start : Instant) :
    (wordOfNat (finish.millisSince start).toNat).toNat =
      (distance IsOverInDay start finish / 1000000).toNat := by
  have hlt := distance_lt IsOverInDay start finish
  have hsign : Int.sign 1000000 = 1 := rfl
  rw [toNat_wordOfNat, millisSince, nanosSince_eq_distance, Int.tdiv_eq_ediv, hsign]
  split <;> omega

end TestReport.Instant
