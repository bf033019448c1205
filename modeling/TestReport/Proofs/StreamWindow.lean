import TestReport.Proofs.Clock
import TestReport.Proofs.Distance

/-!
# The time window of a stream

An event stream holds no times. Its run ends when it is read, and starts as many milliseconds
earlier as it took. How long it took is any word that the stream says, or a sum that stopped at the
largest word, and so the start can lie before all instants of the calendar. Such a run starts when
it ends: the window collapses, it is never turned around.

`Instant.HasStart` says when there is a start. Then it is found, and it lies exactly as many
milliseconds before the end (`Instant.HasStart.exists_minusMillis?`). Going back from an instant
outside of leap seconds never meets one; from inside of a leap second the start may lie in the same
one, but not in another one.
-/

namespace TestReport

namespace Instant

/-! ## Instants on the clock -/

theorem of?_eq_some {day : Int} {second nano : Nat} (hday : firstDay ≤ day ∧ day ≤ lastDay)
    (hsecond : second < secondsPerDay)
    (hnano : nano < nanosPerSecond ∨ second % 60 = 59 ∧ nano < 2 * nanosPerSecond) :
    of? day second nano = some ⟨day, second, nano, hday, hsecond, hnano⟩ :=
  dif_pos ⟨hday, hsecond, hnano⟩

/-- No leap second is counted from the first instant on. -/
theorem nanosSince_first_eq_clockNanos (t : Instant) :
    t.nanosSince first = t.clockNanos - first.clockNanos := by
  rw [nanosSince_first]
  unfold clockNanos first secondsPerDay nanosPerSecond
  dsimp only
  omega

/-- What the clock shows in the calendar is shown outside of leap seconds. -/
theorem exists_ofNanos? {nanos : Int} (hfirst : first.clockNanos ≤ nanos)
    (hlatest : nanos < (lastDay + 1) * secondsPerDay * nanosPerSecond) :
    ∃ t, ofNanos? nanos = some t ∧ t.clockNanos = nanos ∧ ¬t.InLeapSecond := by
  unfold first clockNanos at hfirst
  dsimp only at hfirst
  have hday : firstDay ≤ nanos / nanosPerSecond / secondsPerDay ∧
      nanos / nanosPerSecond / secondsPerDay ≤ lastDay := by
    unfold firstDay lastDay secondsPerDay nanosPerSecond at *
    omega
  have hsecond : (nanos / nanosPerSecond % secondsPerDay).toNat < secondsPerDay := by
    unfold secondsPerDay
    omega
  have hnano : (nanos % nanosPerSecond).toNat < nanosPerSecond := by
    unfold nanosPerSecond
    omega
  refine ⟨_, of?_eq_some hday hsecond (.inl hnano), ?_, Nat.not_le.2 hnano⟩
  unfold clockNanos secondsPerDay nanosPerSecond
  dsimp only
  omega

theorem ofNanos?_eq_none {nanos : Int} (h : nanos < first.clockNanos) :
    ofNanos? nanos = none := by
  unfold ofNanos? of?
  refine dif_neg fun hparts => ?_
  have hday := hparts.1.1
  unfold first clockNanos at h
  dsimp only at h
  unfold firstDay secondsPerDay nanosPerSecond at *
  omega

/-! ## Going back -/

/-- Whether there is an instant so many milliseconds before another one: their number is a signed
word, and no more than have passed since the first instant. -/
structure HasStart (finish : Instant) (millis : Nat) : Prop where
  fits : millis < 2 ^ 63
  in_range : (millis : Int) * 1000000 ≤ finish.nanosSince first

/-- An instant that lies on the clock so many milliseconds before another one. A leap second at the
start is that of the end. -/
structure IsStart (finish : Instant) (millis : Nat) (start : Instant) : Prop where
  clockNanos_eq : start.clockNanos = finish.clockNanos - millis * 1000000
  not_isOver : ¬IsOver finish start
  of_inLeapSecond : start.InLeapSecond → finish.InLeapSecond ∧ ¬IsOver start finish

section MinusMillis

variable {finish : Instant} {millis : Nat}

/-- Less than a second is taken from the fraction of a leap second. -/
theorem exists_minusMillis?_of_inLeapSecond (hleap : finish.InLeapSecond) (hless : millis < 1000) :
    ∃ start, finish.minusMillis? millis = some start ∧ finish.IsStart millis start := by
  have hnano : finish.nano - millis * 1000000 < nanosPerSecond ∨
      finish.second % 60 = 59 ∧ finish.nano - millis * 1000000 < 2 * nanosPerSecond := by
    have h := finish.nano_lt
    omega
  have hsome := of?_eq_some finish.day_range finish.second_lt hnano
  refine ⟨_, (if_pos ⟨hleap, hless⟩).trans hsome, ?_, ?_, fun _ => ⟨hleap, ?_⟩⟩
  · unfold InLeapSecond nanosPerSecond at hleap
    unfold clockNanos
    dsimp only
    omega
  · unfold IsOver
    dsimp only
    omega
  · unfold IsOver
    dsimp only
    omega

/-- Otherwise the time goes back by the clock. -/
theorem minusMillis?_eq_ofNanos? (h : ¬(finish.InLeapSecond ∧ millis < 1000)) :
    finish.minusMillis? millis = ofNanos? (finish.clockNanos - millis * 1000000) := by
  unfold InLeapSecond at h
  unfold minusMillis?
  rw [if_neg h]
  unfold ofNanos? clockNanos
  dsimp only
  generalize (if nanosPerSecond ≤ finish.nano then (1 : Int) else 0) = leap
  generalize hnano : (finish.nano : Int) - leap * nanosPerSecond -
    (millis % 1000 * 1000000 : Nat) = nano
  generalize hsecond : (finish.second : Int) + leap - (millis / 1000 : Nat) +
    nano / nanosPerSecond = second
  have hfraction : ((finish.day * secondsPerDay + finish.second) * nanosPerSecond + finish.nano -
      millis * 1000000) % nanosPerSecond = nano % nanosPerSecond := by
    unfold nanosPerSecond at *
    omega
  have hseconds : ((finish.day * secondsPerDay + finish.second) * nanosPerSecond + finish.nano -
      millis * 1000000) / nanosPerSecond = finish.day * secondsPerDay + second := by
    unfold nanosPerSecond at *
    omega
  have hday : (finish.day * secondsPerDay + second) / secondsPerDay =
      finish.day + second / secondsPerDay := by
    unfold secondsPerDay
    omega
  have hofDay : (finish.day * secondsPerDay + second) % secondsPerDay = second % secondsPerDay := by
    unfold secondsPerDay
    omega
  rw [hfraction, hseconds, hday, hofDay]

/-- Where the clock goes back, what it showed lies before the end of the second of the finish. -/
theorem clockNanos_sub_lt (h : ¬(finish.InLeapSecond ∧ millis < 1000)) :
    finish.clockNanos - millis * 1000000 <
      (finish.day * secondsPerDay + finish.second + 1) * nanosPerSecond := by
  have hnano := finish.nano_lt_two_mul
  unfold InLeapSecond at h
  unfold clockNanos nanosPerSecond at *
  omega

/-- The start is found where there is one. -/
theorem HasStart.exists_minusMillis? (h : finish.HasStart millis) :
    ∃ start, finish.minusMillis? millis = some start ∧ finish.IsStart millis start := by
  by_cases hleap : finish.InLeapSecond ∧ millis < 1000
  · exact exists_minusMillis?_of_inLeapSecond hleap.1 hleap.2
  · have hlt := clockNanos_sub_lt hleap
    have hlatest : finish.clockNanos - millis * 1000000 <
        (lastDay + 1) * secondsPerDay * nanosPerSecond := by
      have hday := finish.day_range.2
      have hsecond := finish.second_lt
      unfold secondsPerDay nanosPerSecond at *
      omega
    have hfirst : first.clockNanos ≤ finish.clockNanos - millis * 1000000 := by
      have hrange := h.in_range
      rw [nanosSince_first_eq_clockNanos] at hrange
      omega
    obtain ⟨start, hstart, hclock, hplain⟩ := exists_ofNanos? hfirst hlatest
    refine ⟨start, (minusMillis?_eq_ofNanos? hleap).trans hstart, hclock, fun hover => ?_,
      fun hin => absurd hin hplain⟩
    rw [← hclock] at hlt
    have hsecond := finish.second_lt
    unfold IsOver clockNanos secondsPerDay nanosPerSecond at *
    omega

/-- Where there is no start, none is found: neither a number that is no signed word nor a smaller
one leads to an instant by chance. -/
theorem minusMillis?_eq_none (h : ¬finish.HasStart millis) : finish.minusMillis? millis = none := by
  have hfirst : finish.clockNanos - millis * 1000000 < first.clockNanos := by
    refine Int.not_le.1 fun hge => h ⟨?_, ?_⟩
    · have hday := finish.day_range.2
      have hsecond := finish.second_lt
      have hnano := finish.nano_lt_two_mul
      unfold clockNanos first firstDay lastDay secondsPerDay nanosPerSecond at *
      dsimp only at hge
      omega
    · rw [nanosSince_first_eq_clockNanos]
      omega
  have hleap : ¬(finish.InLeapSecond ∧ millis < 1000) := by
    rintro ⟨hleap, hless⟩
    have hday := finish.day_range.1
    unfold InLeapSecond at hleap
    unfold clockNanos first secondsPerDay nanosPerSecond at *
    dsimp only at hfirst
    omega
  rw [minusMillis?_eq_ofNanos? hleap, ofNanos?_eq_none hfirst]

end MinusMillis

/-! ## The time in between -/

section IsStart

variable {finish start : Instant} {millis : Nat} (h : finish.IsStart millis start)

include h

theorem IsStart.distance_eq : distance IsOver start finish = millis * 1000000 := by
  have hstart : ¬(start.InLeapSecond ∧ IsOver start finish) :=
    fun hin => (h.of_inLeapSecond hin.1).2 hin.2
  have hfinish : ¬(finish.InLeapSecond ∧ IsOver finish start) := fun hin => h.not_isOver hin.2
  rw [distance, if_neg hstart, if_neg hfinish, h.clockNanos_eq]
  omega

theorem IsStart.not_before : finish.before start = false := by
  rw [← Bool.not_eq_true, before_iff_distance_pos, distance_comm, h.distance_eq]
  omega

theorem IsStart.nanosSince_eq (hplain : ¬finish.InLeapSecond) :
    finish.nanosSince start = millis * 1000000 := by
  have hstart : ¬start.InLeapSecond := fun hin => hplain (h.of_inLeapSecond hin).1
  rw [nanosSince_eq_distance, distance_isOverInDay_eq_of_not_inLeapSecond hstart hplain,
    h.distance_eq]

end IsStart

/-- The window that ends at an instant and lasts some milliseconds is exact where there is a start,
and collapses where there is none. -/
theorem startedBefore_cases (finish : Instant) (millis : Nat) :
    (finish.HasStart millis ∧ finish.IsStart millis (finish.startedBefore millis)) ∨
      (¬finish.HasStart millis ∧ finish.startedBefore millis = finish) := by
  unfold startedBefore
  by_cases h : finish.HasStart millis
  · obtain ⟨start, hsome, hstart⟩ := h.exists_minusMillis?
    exact .inl ⟨h, by rwa [hsome]⟩
  · exact .inr ⟨h, by rw [minusMillis?_eq_none h]; rfl⟩

end Instant

/-! ## Streams -/

namespace VitestRun

theorem endTime_summary (run : VitestRun) (now : Instant) : (run.summary now).endTime = now := by
  unfold summary
  split <;> rfl

/-- Said or added up, the duration of a run is what its start is found by. -/
theorem startTime_summary (run : VitestRun) (now : Instant) :
    (run.summary now).startTime = now.startedBefore (run.summary now).duration.toNat := by
  unfold summary
  split <;> rfl

/-- In a stream that decodes, the run ends at the current time and does not start later. If its
duration is a signed word and leads back to an instant of the calendar, the run starts exactly as
many milliseconds before it ends, in the order of instants and, as clocks show no leap seconds, in
the difference of the two. Otherwise it starts when it ends. -/
theorem exactOrCollapsed_of_decode {environment : Environment} {options : Options}
    {output : String} {now : Instant} {r : Report}
    (h : VitestRun.decode environment options output now = .ok r) :
    r.summary.endTime = now ∧
      r.summary.endTime.before r.summary.startTime = false ∧
      (now.HasStart r.summary.duration.toNat →
        Instant.distance Instant.IsOver r.summary.startTime r.summary.endTime =
            r.summary.duration.toNat * 1000000 ∧
          (¬now.InLeapSecond →
            r.summary.endTime.nanosSince r.summary.startTime =
              r.summary.duration.toNat * 1000000)) ∧
      (¬now.HasStart r.summary.duration.toNat → r.summary.startTime = r.summary.endTime) := by
  obtain ⟨-, rfl⟩ := exists_of_decode h
  generalize (events output.toList).foldl (apply options) {} = run
  have hend : (run.toReport environment now).summary.endTime = now := run.endTime_summary now
  have hstart := run.startTime_summary now
  have hcases := now.startedBefore_cases (run.summary now).duration.toNat
  rw [← hstart] at hcases
  rw [hend]
  rcases hcases with ⟨hhas, hexact⟩ | ⟨hnone, hcollapsed⟩
  · exact ⟨rfl, hexact.not_before, fun _ => ⟨hexact.distance_eq, hexact.nanosSince_eq⟩,
      fun hnone => absurd hhas hnone⟩
  · refine ⟨rfl, ?_, fun hhas => absurd hhas hnone, fun _ => hcollapsed⟩
    exact (congrArg now.before hcollapsed).trans now.before_irrefl

/-- The event of a run without tests that has lasted some milliseconds. -/
def emptyRunStream (millis : Nat) : String :=
  "\x7b\"type\":\"run-finished\",\"total\":0,\"passed\":0,\"failed\":0,\"skipped\":0," ++
  "\"duration\":" ++ toString millis ++ "\x7d"

/-- A run that ends in 1970 can have lasted since the first instant, and not a millisecond more. -/
theorem exactOrCollapsed_of_decode_longest :
    ∃ r r', VitestRun.decode {} {} (emptyRunStream 8334601228800000) .epoch = .ok r ∧
      VitestRun.decode {} {} (emptyRunStream 8334601228800001) .epoch = .ok r' ∧
      r.summary.endTime.nanosSince r.summary.startTime = 8334601228800000 * 1000000 ∧
      r'.summary.startTime = r'.summary.endTime := by
  have hchecked : ∀ millis ∈ [8334601228800000, 8334601228800001],
      (VitestRun.decode {} {} (emptyRunStream millis) .epoch).toOption.any (fun r : Report =>
        r.summary.duration.toNat == millis) = true := by
    unfold emptyRunStream
    simp only [VitestRun.decode, String.toList_append]
    decide +kernel
  have hdecode : ∀ millis ∈ [8334601228800000, 8334601228800001],
      ∃ r, VitestRun.decode {} {} (emptyRunStream millis) .epoch = .ok r ∧
        r.summary.duration.toNat = millis := by
    intro millis hmillis
    have hany := hchecked millis hmillis
    cases hread : VitestRun.decode {} {} (emptyRunStream millis) .epoch with
    | error e => rw [hread] at hany; cases hany
    | ok r => rw [hread] at hany; exact ⟨r, rfl, beq_iff_eq.1 hany⟩
  obtain ⟨r, hr, hlasted⟩ := hdecode _ (List.mem_cons_self)
  obtain ⟨r', hr', hlasted'⟩ := hdecode _ (List.mem_cons_of_mem _ List.mem_cons_self)
  obtain ⟨-, -, hexact, -⟩ := exactOrCollapsed_of_decode hr
  obtain ⟨-, -, -, hcollapsed⟩ := exactOrCollapsed_of_decode hr'
  rw [hlasted] at hexact
  rw [hlasted'] at hcollapsed
  have hstart : Instant.epoch.HasStart 8334601228800000 := ⟨by decide, by decide⟩
  have hnone : ¬Instant.epoch.HasStart 8334601228800001 := fun h => absurd h.in_range (by decide)
  exact ⟨r, r', hr, hr', (hexact hstart).2 (by decide), hcollapsed hnone⟩

end VitestRun

end TestReport
