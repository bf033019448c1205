import TestReport.Proofs.Decoded
import TestReport.Proofs.Distance
import Mathlib.Data.List.Induction

/-!
# When a Jest run ends

The files of a report end at different times, written in different ways, and some of the times mean
no instant. A run ends when the last of its files does: `latestEnd?` keeps the latest of the
instants that it meets, and that is the latest of all (`latestEnd?_eq_some_iff`), in whatever order
the files come. The current time stands in only where no file has an end that is an instant.

`Adapter.window_of_decode` says this of decoded reports, and how long a run took. That is the time
from its start to its end (`Instant.millisUntil`), unless one of the two lies in a leap second of
another day than the other one. Then the leap second counts by the time of day
(`Instant.nanosSince_eq_distance`), and a run that ends before it starts can have taken some time,
as in `leapSecondOutput`.
-/

namespace TestReport

/-! ## The end of a file -/

/-- The instants at which a file ended: the end in its timing, or its own end if there is none, if
that means an instant. -/
inductive JestFile.EndsAt (f : JestFile) : Instant → Prop
  | timed {stamp : TimeStamp} {t : Instant} (hperf : f.perfEnd = some stamp)
      (hstamp : stamp.instant? = some t) : EndsAt f t
  | untimed {stamp : TimeStamp} {t : Instant} (hperf : f.perfEnd = none)
      (hend : f.endTime = some stamp) (hstamp : stamp.instant? = some t) : EndsAt f t

theorem JestFile.finished?_eq_some_iff {f : JestFile} {t : Instant} :
    f.finished? = some t ↔ f.EndsAt t := by
  unfold finished?
  constructor
  · intro h
    obtain ⟨stamp, hwritten, hstamp⟩ := Option.bind_eq_some_iff.1 h
    rcases Option.or_eq_some_iff.1 hwritten with hperf | ⟨hperf, hend⟩
    · exact .timed hperf hstamp
    · exact .untimed hperf hend hstamp
  · rintro (⟨hperf, hstamp⟩ | ⟨hperf, hend, hstamp⟩)
    · rw [hperf, Option.some_or, Option.bind_some, hstamp]
    · rw [hperf, hend, Option.none_or, Option.bind_some, hstamp]

/-- Whether a file of a report ended at an instant. -/
def JestReport.HasFileEnd (r : JestReport) (t : Instant) : Prop :=
  ∃ f ∈ r.files, f.EndsAt t

theorem JestReport.mem_filterMap_finished?_iff {r : JestReport} {t : Instant} :
    t ∈ r.files.filterMap JestFile.finished? ↔ r.HasFileEnd t := by
  simp only [List.mem_filterMap, JestFile.finished?_eq_some_iff, HasFileEnd]

/-! ## The latest end -/

/-- What is kept of the instants with a property: the latest of them, or nothing if there are
none. -/
def Instant.KeepsLatest (P : Instant → Prop) : Option Instant → Prop
  | none => ∀ t, ¬P t
  | some t => t.IsLatest P

section KeepsLatest

variable {P : Instant → Prop} {kept : Option Instant} (h : Instant.KeepsLatest P kept)

include h

theorem Instant.KeepsLatest.eq_some_iff {t : Instant} : kept = some t ↔ t.IsLatest P := by
  match kept, h with
  | none, hnone => exact ⟨nofun, fun ht => absurd ht.holds (hnone t)⟩
  | some s, hs =>
    constructor
    · rintro ⟨⟩
      exact hs
    · intro ht
      rw [IsLatest.eq hs ht]

theorem Instant.KeepsLatest.eq_none_iff : kept = none ↔ ∀ t, ¬P t := by
  match kept, h with
  | none, hnone => exact ⟨fun _ => hnone, fun _ => rfl⟩
  | some s, hs => exact ⟨nofun, fun hnone => absurd hs.holds (hnone s)⟩

end KeepsLatest

namespace JestReport

/-- One more instant: it is kept if it comes after what was kept. -/
theorem keepsLatest_later {ts : List Instant} {latest : Option Instant}
    (h : Instant.KeepsLatest (· ∈ ts) latest) (candidate : Instant) :
    Instant.KeepsLatest (· ∈ ts ++ [candidate]) (some (later latest candidate)) := by
  match latest, h with
  | none, hnone =>
    refine { holds := List.mem_concat_self, not_before := fun s hs => ?_ }
    obtain rfl : s = candidate := by simpa [hnone s] using hs
    exact s.before_irrefl
  | some t, ht =>
    by_cases hbefore : t.before candidate = true
    · rw [later, if_pos hbefore]
      refine { holds := List.mem_concat_self, not_before := fun s hs => ?_ }
      rcases List.mem_append.1 hs with hold | hnew
      · exact Instant.not_before_of_before hbefore (ht.not_before s hold)
      · rw [List.mem_singleton.1 hnew]
        exact candidate.before_irrefl
    · rw [later, if_neg hbefore]
      refine { holds := List.mem_append_left _ ht.holds, not_before := fun s hs => ?_ }
      rcases List.mem_append.1 hs with hold | hnew
      · exact ht.not_before s hold
      · rw [List.mem_singleton.1 hnew]
        exact Bool.eq_false_iff.2 hbefore

theorem keepsLatest_foldl (ts : List Instant) :
    Instant.KeepsLatest (· ∈ ts) (ts.foldl (fun latest t => some (later latest t)) none) := by
  induction ts using List.reverseRecOn with
  | nil => exact fun _ => List.not_mem_nil
  | append_singleton ts t ih =>
    rw [List.foldl_append]
    exact keepsLatest_later ih t

/-- A report ends when the last of its files does. -/
theorem keepsLatest_latestEnd? (r : JestReport) :
    Instant.KeepsLatest r.HasFileEnd r.latestEnd? := by
  have hkept := keepsLatest_foldl (r.files.filterMap JestFile.finished?)
  simp only [mem_filterMap_finished?_iff] at hkept
  exact hkept

theorem latestEnd?_eq_some_iff {r : JestReport} {t : Instant} :
    r.latestEnd? = some t ↔ t.IsLatest r.HasFileEnd :=
  r.keepsLatest_latestEnd?.eq_some_iff

theorem latestEnd?_eq_none_iff {r : JestReport} : r.latestEnd? = none ↔ ∀ t, ¬r.HasFileEnd t :=
  r.keepsLatest_latestEnd?.eq_none_iff

end JestReport

/-! ## The time of a run -/

namespace JestReport

variable {r : JestReport} {suites : List Suite} {now : Instant}

theorem endTime_summary_isLatest (h : ∃ t, r.HasFileEnd t) :
    (r.summary suites now).endTime.IsLatest r.HasFileEnd := by
  obtain ⟨t, ht⟩ := h
  obtain ⟨finish, hfinish⟩ : ∃ finish, r.latestEnd? = some finish := by
    rw [← Option.ne_none_iff_exists', ne_eq, latestEnd?_eq_none_iff]
    exact fun hnone => hnone t ht
  have hend : (r.summary suites now).endTime = finish := by
    simp only [summary, hfinish, Option.getD_some]
  rw [hend]
  exact latestEnd?_eq_some_iff.1 hfinish

theorem endTime_summary_of_forall_not (h : ∀ t, ¬r.HasFileEnd t) :
    (r.summary suites now).endTime = now := by
  simp only [summary, latestEnd?_eq_none_iff.2 h, Option.getD_none]

/-- With a start and an end the duration is the time between the two. -/
theorem duration_summary {start : Instant}
    (hstart : r.startTime.bind TimeStamp.instant? = some start) (h : ∃ t, r.HasFileEnd t) :
    (r.summary suites now).duration =
      wordOfNat ((r.summary suites now).endTime.millisSince start).toNat := by
  have hgiven : r.startTime.isSome = true := by
    obtain ⟨stamp, hstamp, -⟩ := Option.bind_eq_some_iff.1 hstart
    rw [hstamp, Option.isSome_some]
  have hended : r.latestEnd?.isSome = true := by
    obtain ⟨t, ht⟩ := h
    rw [Option.isSome_iff_ne_none, ne_eq, latestEnd?_eq_none_iff]
    exact fun hnone => hnone t ht
  simp only [summary, hstart, hgiven, hended, and_self, if_true, Option.getD_some]

end JestReport

/-- A run ends at the latest of the instants at which its files end, or at the current time if none
of them ends at an instant. If it also starts at an instant, its duration is the time between the
two in whole milliseconds, where leap seconds count by the time of day; if neither of the two lies
in a leap second or both are of one day, this is the time by which the end comes after the start. -/
theorem Adapter.window_of_decode {a : Adapter} (ha : a.framework = .jest) {options : Options}
    {output : String} {now : Instant} {r : Report} (h : a.decode options output now = .ok r) :
    ∃ members written, locateReport output.toList = .ok members ∧
      JestReport.ofMembers? members = .ok written ∧
      ((∃ t, written.HasFileEnd t) → r.summary.endTime.IsLatest written.HasFileEnd) ∧
      ((∀ t, ¬written.HasFileEnd t) → r.summary.endTime = now) ∧
      ∀ start, written.startTime.bind TimeStamp.instant? = some start →
        (∃ t, written.HasFileEnd t) →
        r.summary.startTime = start ∧
        r.summary.duration.toNat =
          (Instant.distance Instant.IsOverInDay start r.summary.endTime / 1000000).toNat ∧
        (start.day = r.summary.endTime.day ∨
            ¬start.InLeapSecond ∧ ¬r.summary.endTime.InLeapSecond →
          r.summary.duration.toNat = start.millisUntil r.summary.endTime) := by
  obtain ⟨framework, environment, defaults⟩ := a
  subst ha
  obtain ⟨members, written, hfound, hwritten, rfl⟩ := JestReport.exists_of_decode h
  refine ⟨members, written, hfound, hwritten, JestReport.endTime_summary_isLatest,
    JestReport.endTime_summary_of_forall_not, fun start hstart hend => ?_⟩
  have hduration : (written.summary (written.suites options) now).duration.toNat = _ :=
    congrArg UInt64.toNat (JestReport.duration_summary hstart hend)
  rw [Instant.toNat_wordOfNat_millisSince] at hduration
  refine ⟨?_, hduration, fun hplain => ?_⟩
  · exact congrArg (Option.getD · now) hstart
  · refine hduration.trans ?_
    rw [Instant.millisUntil_eq]
    rcases hplain with hday | ⟨hstartPlain, hendPlain⟩
    · exact congrArg _ (congrArg (· / _) (Instant.distance_isOverInDay_eq_of_day_eq hday))
    · exact congrArg _ (congrArg (· / _)
        (Instant.distance_isOverInDay_eq_of_not_inLeapSecond hstartPlain hendPlain))

/-- A report whose files end at a count of milliseconds, at no instant, and at a time of another
place, the last of them with a later time that does not count. -/
def mixedEndsOutput : String :=
  "\x7b\"numTotalTests\":0,\"startTime\":1700000000000,\"testResults\":[" ++
  "\x7b\"endTime\":1700000000250\x7d,\x7b\"endTime\":\"soon\"\x7d," ++
  "\x7b\"perfStats\":\x7b\"end\":\"2023-11-15T00:13:20.5+02:00\"\x7d," ++
  "\"endTime\":9999999999999\x7d]\x7d"

/-- Its run ends with the last file, half a second after it started. -/
theorem Adapter.window_of_decode_mixedEnds :
    ∃ r written, Adapter.decode ⟨.jest, {}, {}⟩ {} mixedEndsOutput .epoch = .ok r ∧
      r.summary.endTime.IsLatest (JestReport.HasFileEnd written) ∧
      r.summary.startTime.millisUntil r.summary.endTime = 500 ∧
      r.summary.duration.toNat = r.summary.startTime.millisUntil r.summary.endTime := by
  have hchecked : (locateReport mixedEndsOutput.toList >>= JestReport.ofMembers?).toOption.any
      (fun r => (r.startTime.bind TimeStamp.instant?).isSome ∧
        (r.files.filterMap JestFile.finished?).isEmpty = false ∧
        (r.summary [] .epoch).startTime.day = (r.summary [] .epoch).endTime.day ∧
        (r.summary [] .epoch).startTime.millisUntil (r.summary [] .epoch).endTime = 500) =
          true := by
    unfold mixedEndsOutput
    simp only [String.toList_append]
    decide +kernel
  obtain ⟨members, written, hfound, hwritten, hfacts⟩ := JestReport.exists_of_any hchecked
  obtain ⟨hstarted, hended, hday, hlength⟩ := of_decide_eq_true hfacts
  have hdecode := decode_jest_of_ofMembers? hfound hwritten {} {} {} .epoch
  obtain ⟨members', written', hfound', hwritten', hend, -, htime⟩ := window_of_decode rfl hdecode
  obtain rfl := Except.ok.inj (hfound.symm.trans hfound')
  obtain rfl := Except.ok.inj (hwritten.symm.trans hwritten')
  obtain ⟨start, hstart⟩ := Option.isSome_iff_exists.1 hstarted
  obtain ⟨t, ht⟩ := List.exists_mem_of_ne_nil _ (List.isEmpty_eq_false_iff.1 hended)
  have hfile := JestReport.mem_filterMap_finished?_iff.1 ht
  obtain ⟨hstartTime, -, hduration⟩ := htime start hstart ⟨t, hfile⟩
  refine ⟨_, written, hdecode, hend ⟨t, hfile⟩, hlength, ?_⟩
  rw [hduration (.inl (hstartTime ▸ hday)), hstartTime]

/-- A run that ends in a leap second, and starts after it. -/
def leapSecondOutput : String :=
  "\x7b\"numTotalTests\":0,\"startTime\":\"2017-01-01T00:00:00.2Z\",\"testResults\":[" ++
  "\x7b\"endTime\":\"2016-12-31T23:59:60.5Z\"\x7d]\x7d"

/-- Its end lies before its start, and yet it takes 300 milliseconds. -/
theorem Adapter.duration_of_decode_leapSecond :
    ∃ r, Adapter.decode ⟨.jest, {}, {}⟩ {} leapSecondOutput .epoch = .ok r ∧
      r.summary.endTime.before r.summary.startTime = true ∧
      r.summary.duration = 300 ∧
      r.summary.duration.toNat ≠ r.summary.startTime.millisUntil r.summary.endTime := by
  have hchecked : (Adapter.decode ⟨.jest, {}, {}⟩ {} leapSecondOutput .epoch).toOption.any
      (fun r => r.summary.endTime.before r.summary.startTime = true ∧ r.summary.duration = 300) =
        true := by
    unfold Adapter.decode Framework.decode JestReport.decode leapSecondOutput
    simp only [String.toList_append]
    decide +kernel
  obtain ⟨r, hdecode, hr⟩ := exists_of_any_decode hchecked
  obtain ⟨hbefore, hduration⟩ := of_decide_eq_true hr
  refine ⟨r, hdecode, hbefore, hduration, ?_⟩
  rw [hduration, Instant.millisUntil, if_pos hbefore]
  decide

end TestReport
