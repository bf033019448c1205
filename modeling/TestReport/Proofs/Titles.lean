import TestReport.Proofs.WrittenLines
import TestReport.Text.Path

/-!
# Titles in two parts

A title that names a suite and a test in one text is cut at the last blank: what follows is the name
of the test, and what stands before, without the blanks at its end, is the name of the suite. Blanks
come in runs of any kinds and lengths, around the title as well as inside it, so it is not plain
that both names are there and that neither has blanks at its ends.

`splitTitle_eq_iff` says that a title is cut just so. Trimming takes away blanks only
(`isPadded_trim`). Of what it leaves, the two names and the run of blanks between them are all, and
there is no other way to read it so (`IsTitleSplit`).
-/

namespace TestReport.Text

/-! ## Texts without blanks at their ends -/

/-- Whether a text has no blank at either end. -/
structure IsTrimmed (text : List Char) : Prop where
  head_not_blank : ∀ c ∈ text.head?, isBlank c = false
  last_not_blank : ∀ c ∈ text.getLast?, isBlank c = false

theorem isTrimmed_trim (text : List Char) : IsTrimmed (trim text) where
  head_not_blank := head_trim_not_blank text
  last_not_blank := last_trim_not_blank text

theorem IsTrimmed.trimEnd_eq {text : List Char} (h : IsTrimmed text) : trimEnd text = text := by
  refine List.rdropWhile_eq_self_iff.2 fun hne => Bool.eq_false_iff.1 (h.last_not_blank _ ?_)
  exact List.getLast?_eq_some_getLast hne

/-- Blanks inside a text without blanks at its ends stand between two parts that are not empty. -/
theorem IsTrimmed.ne_nil_of_append {front gap back : List Char}
    (h : IsTrimmed (front ++ gap ++ back)) (hne : gap ≠ [])
    (hgap : ∀ c ∈ gap, isBlank c = true) : front ≠ [] ∧ back ≠ [] := by
  constructor
  · rintro rfl
    have hhead := h.head_not_blank (gap.head hne) (by simp [List.head?_eq_some_head hne])
    exact Bool.eq_false_iff.1 hhead (hgap _ (List.head_mem hne))
  · rintro rfl
    have hlast := h.last_not_blank (gap.getLast hne) (by simp [List.getLast?_eq_some_getLast hne])
    exact Bool.eq_false_iff.1 hlast (hgap _ (List.getLast_mem hne))

/-! ## The parts of a title -/

/-- Whether a trimmed title is cut into the name of a suite and the name of a test. -/
structure IsTitleSplit (title suite test : List Char) : Prop where
  test_not_blank : ∀ c ∈ test, isBlank c = false
  suite_trimmed : IsTrimmed suite
  /-- A title of several words has both names, and nothing but blanks between them. -/
  of_blank : (∃ c ∈ title, isBlank c = true) →
    suite ≠ [] ∧ test ≠ [] ∧
      ∃ gap, gap ≠ [] ∧ (∀ c ∈ gap, isBlank c = true) ∧ title = suite ++ gap ++ test
  /-- A title of one word is the name of the test. -/
  of_not_blank : (∀ c ∈ title, isBlank c = false) → suite = [] ∧ test = title

theorem isTitleSplit_splitTitle (title : List Char) :
    IsTitleSplit (trim title) (splitTitle title).1 (splitTitle title).2 := by
  have htrimmed := isTrimmed_trim title
  unfold splitTitle
  cases hcut : splitLastWhere? isBlank (trim title) with
  | none =>
    have hnone := splitLastWhere?_eq_none_iff.1 hcut
    refine ⟨hnone, ⟨nofun, nofun⟩, fun ⟨c, hc, hblank⟩ => ?_, fun _ => ⟨rfl, rfl⟩⟩
    exact absurd hblank (Bool.eq_false_iff.1 (hnone c hc))
  | some parts =>
    obtain ⟨front, test⟩ := parts
    obtain ⟨c, hc, htitle, htest⟩ := splitLastWhere?_eq_some_iff.1 hcut
    obtain ⟨gap, hgap, hfront⟩ := exists_trimEnd_append_blank front
    have hwhole : trim title = trimEnd front ++ (gap ++ [c]) ++ test := by
      rw [htitle, ← List.append_assoc, hfront, List.append_assoc, List.singleton_append]
    have hblank : ∀ d ∈ gap ++ [c], isBlank d = true :=
      List.forall_mem_append.2 ⟨hgap, List.forall_mem_singleton.2 hc⟩
    have hgap_ne : gap ++ [c] ≠ [] := List.concat_ne_nil c gap
    obtain ⟨hsuite_ne, htest_ne⟩ := (hwhole ▸ htrimmed).ne_nil_of_append hgap_ne hblank
    refine ⟨htest, ⟨?_, last_trimEnd_not_blank front⟩, fun _ => ?_, fun hnone => ?_⟩
    · intro d hd
      refine htrimmed.head_not_blank d ?_
      rw [hwhole, List.append_assoc, List.head?_append_of_ne_nil _ hsuite_ne]
      exact hd
    · exact ⟨hsuite_ne, htest_ne, gap ++ [c], hgap_ne, hblank, hwhole⟩
    · have hmem : c ∈ trim title := by simp [htitle]
      exact absurd hc (Bool.eq_false_iff.1 (hnone c hmem))

/-- A title is read in one way only. -/
theorem IsTitleSplit.splitTitle_eq {title suite test : List Char}
    (h : IsTitleSplit (trim title) suite test) : splitTitle title = (suite, test) := by
  unfold splitTitle
  by_cases hblank : ∃ c ∈ trim title, isBlank c = true
  · obtain ⟨-, -, gap, hgap_ne, hgap, htitle⟩ := h.of_blank hblank
    obtain ⟨front, c, rfl⟩ := (List.eq_nil_or_concat gap).resolve_left hgap_ne
    rw [List.concat_eq_append] at hgap htitle
    obtain ⟨hfront, hc⟩ := List.forall_mem_append.1 hgap
    have hcut : trim title = (suite ++ front) ++ c :: test := by rw [htitle]; simp
    rw [hcut, splitLastWhere?_append (hc c List.mem_cons_self) h.test_not_blank]
    show (trimEnd (suite ++ front), test) = (suite, test)
    rw [trimEnd_append_of_blank hfront, h.suite_trimmed.trimEnd_eq]
  · have hnone : ∀ c ∈ trim title, isBlank c = false :=
      fun c hc => Bool.eq_false_iff.2 fun hc' => hblank ⟨c, hc, hc'⟩
    obtain ⟨rfl, rfl⟩ := h.of_not_blank hnone
    rw [splitLastWhere?_eq_none_iff.2 hnone]

/-- Trimming a title takes away the blanks at its ends. What is left is cut into the name of a suite
and the name of a test: the test has no blank in it, the suite has none at its ends, and if there is
a blank at all then neither is empty and there is nothing but blanks between them. There is no other
cut of this kind. -/
theorem splitTitle_eq_iff (title suite test : List Char) :
    IsPadded (trim title) title ∧ IsTrimmed (trim title) ∧
      (splitTitle title = (suite, test) ↔ IsTitleSplit (trim title) suite test) := by
  refine ⟨isPadded_trim title, isTrimmed_trim title, ?_, IsTitleSplit.splitTitle_eq⟩
  intro h
  have hsplit := isTitleSplit_splitTitle title
  rwa [h] at hsplit

example : splitTitle "\u00a0Suite\u3000 Foo \t\u2003adds\u2028".toList =
    ("Suite\u3000 Foo".toList, "adds".toList) := by
  decide

end TestReport.Text
