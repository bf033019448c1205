import TestReport.Proofs.Reruns

/-!
# Names in an event stream

Vitest reports a test under one whole name, in which the names of the suites around it and its own
name stand with ` > ` between them. Any of these names may hold the separator or a part of it, so
that its occurrences can overlap, stand at the ends or follow each other. The whole name is cut at
the occurrence that starts last (`Text.IsLastCut`): what stands before it is the name of the suite,
and what stands after it is the name of the test. A name without a separator is the name of a test
outside of all suites, and then the file stands in for the suite.

A test may be reported many times, and every time it takes the place of what was stored before.
That the names of a stored test fit its suite is nevertheless a fact about single events: every
stored test is that of some event, and stands in the suite of that event's key (`Suites.Placed`).
-/

namespace TestReport

/-! ## The last cut -/

namespace Text

/-- Whether a text falls into two parts at a separator that starts as late as any other one. -/
structure IsLastCut (separator text before after : List Char) : Prop where
  append_eq : before ++ separator ++ after = text
  length_le : ∀ front back, front ++ separator ++ back = text → front.length ≤ before.length

variable {separator text before after : List Char}

theorem splitLast?_eq_none_iff : splitLast? separator text = none ↔ ¬separator <:+: text := by
  induction text with
  | nil => simp [splitLast?, List.isEmpty_iff]
  | cons c rest ih =>
    rw [List.infix_cons_iff, not_or, ← ih, ← List.isPrefixOf_iff_prefix]
    rw [splitLast?]
    cases splitLast? separator rest with
    | some parts => simp
    | none => simp

theorem isLastCut_of_splitLast? (h : splitLast? separator text = some (before, after)) :
    IsLastCut separator text before after := by
  refine ⟨append_of_splitLast? h, ?_⟩
  induction text generalizing before with
  | nil =>
    intro front back hcut
    have hfront : front = [] := (List.append_eq_nil_iff.1 (List.append_eq_nil_iff.1 hcut).1).1
    simp [hfront]
  | cons c rest ih =>
    rintro (_ | ⟨d, front⟩) back hcut
    · exact Nat.zero_le _
    · -- The separator starts in what follows the first character, so the cut is made there.
      have hrest : front ++ separator ++ back = rest := (List.cons.inj hcut).2
      unfold splitLast? at h
      cases hlater : splitLast? separator rest with
      | none => exact absurd ⟨front, back, hrest⟩ (splitLast?_eq_none_iff.1 hlater)
      | some parts =>
        obtain ⟨before', after'⟩ := parts
        rw [hlater] at h
        obtain ⟨rfl, rfl⟩ : c :: before' = before ∧ after' = after := by simpa using h
        exact Nat.succ_le_succ (ih hlater front back hrest)

/-- Nothing is left to cut behind the last cut. -/
theorem IsLastCut.not_infix (h : IsLastCut separator text before after) (hne : separator ≠ []) :
    ¬separator <:+: after := by
  rintro ⟨front, back, rfl⟩
  have hpos : 0 < separator.length := List.length_pos_iff.2 hne
  have hle := h.length_le (before ++ separator ++ front) back (by simp [← h.append_eq])
  simp only [List.length_append] at hle
  omega

end Text

/-! ## Names of tests -/

/-- Whether a whole name names suites: the separator of names occurs in it. -/
def IsNested (name : String) : Prop :=
  nameSeparator.toList <:+: name.toList

/-- Whether the names of a test keep the hierarchy that its whole name tells. -/
structure Test.KeepsHierarchy (t : Test) (s : Suite) : Prop where
  /-- The whole name is cut into suite and test, at the separator that starts last. -/
  nested : IsNested t.fullName →
    t.fullName = s.name ++ " > " ++ t.name ∧
      ∀ front back, t.fullName = front ++ " > " ++ back → front.length ≤ s.name.length
  /-- A name without suites is that of the test, and the file stands in for the suite. -/
  flat : ¬IsNested t.fullName → t.name = t.fullName ∧ s.name = s.filePath
  not_isNested_name : ¬IsNested t.name
  filePath_eq : t.filePath = some s.filePath
  id_eq : t.id = s.filePath ++ " " ++ t.fullName

namespace VitestOutcome

variable (o : VitestOutcome) (options : Options)

/-- Either the whole name is cut at its last separator, or there is none and the file stands in. -/
theorem names_cases :
    (IsNested o.name ∧ Text.IsLastCut nameSeparator.toList o.name.toList
        (o.names options).1.toList (o.names options).2.toList) ∨
      (¬IsNested o.name ∧ o.names options = (o.path options, o.name)) := by
  unfold names
  cases hcut : Text.splitLast? nameSeparator.toList o.name.toList with
  | none => exact .inr ⟨Text.splitLast?_eq_none_iff.1 hcut, rfl⟩
  | some parts =>
    have hlast := Text.isLastCut_of_splitLast? hcut
    exact .inl ⟨⟨_, _, hlast.append_eq⟩, by simpa using hlast⟩

/-- The test of an event keeps its hierarchy in the suite that it goes to. -/
theorem keepsHierarchy_test {s : Suite}
    (hkey : s.key = (suiteNameOf (o.path options) o.name, o.path options)) :
    (o.test options).KeepsHierarchy s := by
  rw [← names_fst] at hkey
  obtain ⟨hname, hfile⟩ : s.name = (o.names options).1 ∧ s.filePath = o.path options :=
    Prod.mk.inj hkey
  have hpath : (o.test options).filePath = some s.filePath := congrArg some hfile.symm
  have hid : (o.test options).id = s.filePath ++ " " ++ (o.test options).fullName := by
    rw [hfile]
    rfl
  rcases o.names_cases options with ⟨hnested, hlast⟩ | ⟨hflat, hnames⟩
  · refine ⟨fun _ => ⟨?_, fun front back hcut => ?_⟩, fun h => absurd hnested h, ?_, hpath, hid⟩
    · rw [hname, ← String.toList_inj, String.toList_append, String.toList_append]
      exact hlast.append_eq.symm
    · have hlists : front.toList ++ nameSeparator.toList ++ back.toList = o.name.toList := by
        rw [← String.toList_append, ← String.toList_append]
        exact congrArg String.toList hcut.symm
      have hle := hlast.length_le _ _ hlists
      rwa [hname, ← String.length_toList, ← String.length_toList]
    · exact hlast.not_infix (by decide)
  · refine ⟨fun h => absurd h hflat, fun _ => ⟨?_, ?_⟩, ?_, hpath, hid⟩
    · exact congrArg Prod.snd hnames
    · rw [hname, hnames, hfile]
    · rwa [show (o.test options).name = o.name from congrArg Prod.snd hnames]

end VitestOutcome

/-- In a stream that decodes, every stored test keeps the hierarchy of names. If its whole name
holds the separator, the name of its suite is what stands before the one that starts last and its
own name is what stands after it, where there is no separator any more. Otherwise the whole name is
its own and the suite has the name of the file. -/
theorem VitestRun.keepsHierarchy_of_decode {environment : Environment} {options : Options}
    {output : String} {now : Instant} {r : Report}
    (h : VitestRun.decode environment options output now = .ok r) :
    ∀ s ∈ r.suites, ∀ t ∈ s.tests, t.KeepsHierarchy s := by
  obtain ⟨-, rfl⟩ := exists_of_decode h
  intro s hs t ht
  obtain ⟨o, rfl, hkey⟩ := (placed_foldl options (events output.toList)).exists_outcome s hs t ht
  exact o.keepsHierarchy_test options hkey

/-- A stream with separators that overlap or are the whole name, and with a test that goes by the
path of its file. -/
def oddNamesStream : String :=
  "\x7b\"type\":\"test-finished\",\"file\":\"a\",\"name\":\"x > > y\",\"state\":\"failed\"\x7d\n" ++
  "\x7b\"type\":\"test-finished\",\"file\":\"a\",\"name\":\" > \",\"state\":\"passed\"\x7d\n" ++
  "\x7b\"type\":\"test-finished\",\"file\":\"a\",\"name\":\"a\",\"state\":\"passed\"\x7d"

theorem VitestRun.keepsHierarchy_of_decode_oddNames :
    ∃ r, VitestRun.decode {} {} oddNamesStream .epoch = .ok r ∧
      (∀ s ∈ r.suites, ∀ t ∈ s.tests, t.KeepsHierarchy s) ∧
      r.suites.map (fun s => (s.name, s.tests.map (·.name))) =
        [("x >", ["y"]), ("", [""]), ("a", ["a"])] := by
  have hok : (VitestRun.decode {} {} oddNamesStream .epoch).toOption.any (fun r : Report =>
      r.suites.map (fun s => (s.name, s.tests.map (·.name))) ==
        [("x >", ["y"]), ("", [""]), ("a", ["a"])]) = true := by
    decide +kernel
  cases hdecode : VitestRun.decode {} {} oddNamesStream .epoch with
  | error e => rw [hdecode] at hok; cases hok
  | ok r =>
    rw [hdecode] at hok
    exact ⟨r, rfl, keepsHierarchy_of_decode hdecode, beq_iff_eq.1 hok⟩

end TestReport
