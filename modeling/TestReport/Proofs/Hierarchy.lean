import TestReport.Proofs.Grouping
import Mathlib.Data.List.Nodup

/-!
# Suites and the hierarchy of Jest

Jest names the suites around each assertion, from the outermost to the innermost. A test ought to
share its suite with the tests of the same file that have the same suites around them. The suite is
known by one name, though, in which the titles stand with spaces between them, and titles may hold
spaces too. So the name tells the words of the titles but not where one title ends and the next one
begins (`JestAssertion.suiteName_eq_iff`). Where no title has a space, titles are told apart
(`JestAssertion.not_isMixedUp`). An assertion without titles goes by the path of its file, whose
words may be those of some titles as well.

Where a test stands is told by the position of its suite (`Suites.placeOf?`). In suites that are the
groups of a list, the tests that stand at a position are those that have their place there
(`Suites.tests_getElem?_grouped`), and two places are the same if the keys are. So two assertions
stand in the same suite exactly if their files have the same path and their titles are the same or
are mixed up (`Adapter.place_eq_iff`).
-/

namespace TestReport

/-! ## Joined titles -/

/-- Texts that were joined by a separator fall apart into the pieces that they consist of. -/
theorem splitOn_intercalate_flatMap {α : Type} [BEq α] [LawfulBEq α] (c : α) {texts : List (List α)}
    (h : texts ≠ []) :
    ([c].intercalate texts).splitOn c = texts.flatMap (·.splitOn c) := by
  induction texts with
  | nil => exact absurd rfl h
  | cons text texts ih =>
    cases texts with
    | nil => simp
    | cons next texts =>
      rw [List.intercalate_cons_cons, List.append_assoc, List.singleton_append,
        List.splitOn_append_cons_self, ih (List.cons_ne_nil _ _), List.flatMap_cons (x := text)]

namespace JestAssertion

variable {a b : JestAssertion} {path : String}

/-- The words of the titles around an assertion. Without a title the path of the file stands in. -/
def titleWords (a : JestAssertion) (path : String) : List (List Char) :=
  (if a.ancestorTitles = [] then [path] else a.ancestorTitles).flatMap (·.toList.splitOn ' ')

/-- Whether two assertions have different titles around them in which the words are the same. -/
structure IsMixedUp (a b : JestAssertion) (path : String) : Prop where
  titles_ne : a.ancestorTitles ≠ b.ancestorTitles
  words_eq : a.titleWords path = b.titleWords path

theorem splitOn_suiteName (a : JestAssertion) (path : String) :
    (a.suiteName path).toList.splitOn ' ' = a.titleWords path := by
  unfold suiteName titleWords
  by_cases htitles : a.ancestorTitles = []
  · simp [htitles]
  · have hmap : a.ancestorTitles.map String.toList ≠ [] := by simpa using htitles
    have hspace : " ".toList = [' '] := rfl
    rw [if_neg (by simpa using htitles), if_neg htitles, String.toList_intercalate, hspace,
      splitOn_intercalate_flatMap ' ' hmap, List.flatMap_map]

/-- The name of a suite tells the words of the titles, and nothing else. -/
theorem suiteName_eq_iff :
    a.suiteName path = b.suiteName path ↔ a.titleWords path = b.titleWords path := by
  rw [← splitOn_suiteName, ← splitOn_suiteName]
  constructor
  · intro h
    rw [h]
  · intro h
    have hjoined := congrArg (List.intercalate [' ']) h
    rw [List.intercalate_splitOn, List.intercalate_splitOn] at hjoined
    exact String.toList_inj.1 hjoined

theorem suiteName_eq_iff_isMixedUp :
    a.suiteName path = b.suiteName path ↔
      a.ancestorTitles = b.ancestorTitles ∨ a.IsMixedUp b path := by
  rw [suiteName_eq_iff]
  by_cases htitles : a.ancestorTitles = b.ancestorTitles
  · simp [titleWords, htitles]
  · exact ⟨fun hwords => .inr ⟨htitles, hwords⟩, fun h => (h.resolve_left htitles).words_eq⟩

/-- Titles without spaces are not mixed up with each other. -/
theorem not_isMixedUp (ha : a.ancestorTitles ≠ []) (hb : b.ancestorTitles ≠ [])
    (hspace : ∀ title ∈ a.ancestorTitles ++ b.ancestorTitles, ' ' ∉ title.toList) :
    ¬ a.IsMixedUp b path := by
  have hwords : ∀ c : JestAssertion, c.ancestorTitles ≠ [] →
      (∀ title ∈ c.ancestorTitles, ' ' ∉ title.toList) →
        c.titleWords path = c.ancestorTitles.map String.toList := by
    intro c hc hspace
    rw [← splitOn_suiteName, suiteName, if_neg (by simpa using hc), String.toList_intercalate]
    refine List.splitOn_intercalate ' ' ?_ (by simpa using hc)
    simpa using hspace
  rintro ⟨hne, heq⟩
  rw [hwords a ha fun t ht => hspace t (List.mem_append_left _ ht),
    hwords b hb fun t ht => hspace t (List.mem_append_right _ ht)] at heq
  exact hne (List.map_injective_iff.2 (fun _ _ => String.toList_inj.1) heq)

end JestAssertion

/-! ## Places -/

namespace Suites

variable {listed : List KeyedTest} {t t' : KeyedTest} {i : Nat}

/-- Where a test stands: the position of the suite with its key. -/
def placeOf? (suites : List Suite) (t : KeyedTest) : Option Nat :=
  index? suites t.1.1 t.1.2

theorem placeOf?_grouped_eq_some_iff :
    placeOf? (grouped listed) t = some i ↔ (firstKeys listed)[i]? = some t.1 := by
  have hindex : placeOf? (grouped listed) t = (firstKeys listed).idxOf? t.1 := by
    have hat : ∀ key, (Suite.ofTests key (group listed key)).isAt t.1.1 t.1.2 = (key == t.1) := by
      intro key
      rw [Bool.eq_iff_iff, Suite.isAt_iff, Suite.key_ofTests, beq_iff_eq]
    rw [placeOf?, index?, grouped, List.findIdx?_map, List.idxOf?]
    exact congrArg (List.findIdx? · (firstKeys listed)) (funext hat)
  rw [hindex, List.idxOf?_eq_some_iff, List.getElem?_eq_some_iff]
  constructor
  · rintro ⟨hlt, hkey, -⟩
    exact ⟨hlt, hkey⟩
  · rintro ⟨hlt, hkey⟩
    refine ⟨hlt, hkey, fun j hj hsame => ?_⟩
    have hij : j = i := (nodup_firstKeys listed).getElem_inj_iff.1 (hsame.trans hkey.symm)
    omega

theorem exists_placeOf?_grouped (h : t ∈ listed) : ∃ i, placeOf? (grouped listed) t = some i := by
  obtain ⟨i, hi⟩ := List.mem_iff_getElem?.1 (mem_firstKeys.2 ⟨t, h, rfl⟩)
  exact ⟨i, placeOf?_grouped_eq_some_iff.2 hi⟩

theorem placeOf?_grouped_eq_iff (h : t ∈ listed) :
    placeOf? (grouped listed) t = placeOf? (grouped listed) t' ↔ t.1 = t'.1 := by
  constructor
  · intro hplace
    obtain ⟨i, hi⟩ := exists_placeOf?_grouped h
    have hkey := placeOf?_grouped_eq_some_iff.1 hi
    have hkey' := placeOf?_grouped_eq_some_iff.1 (hplace ▸ hi)
    exact Option.some.inj (hkey.symm.trans hkey')
  · intro hkey
    rw [placeOf?, placeOf?, hkey]

/-- The tests at a position are those with their place there, in the order of the list. -/
theorem tests_getElem?_grouped {s : Suite} (h : (grouped listed)[i]? = some s) :
    s.tests = (listed.filter fun t => placeOf? (grouped listed) t = some i).map (·.2) := by
  rw [grouped, List.getElem?_map, Option.map_eq_some_iff] at h
  obtain ⟨key, hkey, rfl⟩ := h
  have hfilter : ∀ t ∈ listed,
      decide (placeOf? (grouped listed) t = some i) = decide (t.1 = key) := by
    intro t _
    rw [decide_eq_decide, placeOf?_grouped_eq_some_iff, hkey, Option.some_inj, eq_comm]
  rw [List.filter_congr hfilter]
  rfl

end Suites

/-! ## Decoded reports -/

theorem JestReport.keyed_mem_listed {r : JestReport} {options : Options} {f : JestFile}
    (hf : f ∈ r.files) {t : JestAssertion} (ht : t ∈ f.assertions) :
    t.keyed (f.path options) ∈ r.listed options := by
  refine List.mem_flatMap.2 ⟨f, hf, ?_⟩
  rw [JestFile.listed, if_pos (List.ne_nil_of_mem ht)]
  exact List.mem_map_of_mem ht

/-- In a decoded report every suite holds the tests that have their place there. Every assertion has
a place, and two have the same place exactly if their files have the same path and the titles around
them are the same or are mixed up. -/
theorem Adapter.place_eq_iff {a : Adapter} (ha : a.framework = .jest) {options : Options}
    {output : String} {now : Instant} {r : Report} (h : a.decode options output now = .ok r) :
    ∃ members written, locateReport output.toList = .ok members ∧
      JestReport.ofMembers? members = .ok written ∧
      (∀ i s, r.suites[i]? = some s → s.tests =
        ((written.listed options).filter fun t =>
          Suites.placeOf? r.suites t = some i).map (·.2)) ∧
      ∀ f ∈ written.files, ∀ t ∈ f.assertions, ∀ f' ∈ written.files, ∀ t' ∈ f'.assertions,
        (∃ i, Suites.placeOf? r.suites (t.keyed (f.path options)) = some i) ∧
        (Suites.placeOf? r.suites (t.keyed (f.path options)) =
            Suites.placeOf? r.suites (t'.keyed (f'.path options)) ↔
          f.path options = f'.path options ∧
            (t.ancestorTitles = t'.ancestorTitles ∨ t.IsMixedUp t' (f.path options))) := by
  obtain ⟨framework, environment, defaults⟩ := a
  obtain rfl : framework = .jest := ha
  obtain ⟨members, written, hfound, hwritten, rfl⟩ := JestReport.exists_of_decode h
  have hsuites : (written.toReport ((members.lookup "coverageMap").bind Coverage.ofMap?) environment
      options now).suites = Suites.grouped (written.listed options) :=
    written.suites_grouped options
  rw [hsuites]
  refine ⟨members, written, hfound, hwritten, fun i s => Suites.tests_getElem?_grouped, ?_⟩
  intro f hf t ht f' _ t' _
  have hlisted : t.keyed (f.path options) ∈ written.listed options :=
    JestReport.keyed_mem_listed hf ht
  refine ⟨Suites.exists_placeOf?_grouped hlisted, ?_⟩
  rw [Suites.placeOf?_grouped_eq_iff hlisted]
  constructor
  · intro hkey
    obtain ⟨hname, hpath⟩ := Prod.mk.inj hkey
    refine ⟨hpath, JestAssertion.suiteName_eq_iff_isMixedUp.1 ?_⟩
    rw [hname, hpath]
  · rintro ⟨hpath, htitles⟩
    refine Prod.ext ?_ hpath
    have hname := JestAssertion.suiteName_eq_iff_isMixedUp.2 htitles
    rwa [← hpath]

/-- A report of a file with tests in a suite `a b`, in a suite `b` inside `a`, and in a suite
`c`. -/
def joinedTitlesOutput : String :=
  "\x7b\"numTotalTests\":3,\"testResults\":[\x7b\"name\":\"a.js\",\"assertionResults\":[" ++
  "\x7b\"ancestorTitles\":[\"a b\"],\"title\":\"x\",\"status\":\"passed\"\x7d," ++
  "\x7b\"ancestorTitles\":[\"a\",\"b\"],\"title\":\"y\",\"status\":\"passed\"\x7d," ++
  "\x7b\"ancestorTitles\":[\"c\"],\"title\":\"z\",\"status\":\"passed\"\x7d]\x7d]\x7d"

/-- The report, with the suites that it gets and with two tests of the first of them. -/
theorem JestReport.exists_of_joinedTitlesOutput :
    ∃ members written, locateReport joinedTitlesOutput.toList = .ok members ∧
      JestReport.ofMembers? members = .ok written ∧
      (written.suites {}).map (fun s => (s.name, s.tests.map (·.name))) =
        [("a b", ["x", "y"]), ("c", ["z"])] ∧
      ∃ f ∈ written.files, ∃ t ∈ f.assertions, ∃ t' ∈ f.assertions,
        t.ancestorTitles ≠ t'.ancestorTitles ∧
          Suites.placeOf? (written.suites {}) (t.keyed (f.path {})) = some 0 ∧
          Suites.placeOf? (written.suites {}) (t'.keyed (f.path {})) = some 0 := by
  have hchecked : (locateReport joinedTitlesOutput.toList >>= JestReport.ofMembers?).toOption.any
      (fun written => decide ((written.suites {}).map (fun s => (s.name, s.tests.map (·.name))) =
          [("a b", ["x", "y"]), ("c", ["z"])] ∧
        ∃ f ∈ written.files, ∃ t ∈ f.assertions, ∃ t' ∈ f.assertions,
          t.ancestorTitles ≠ t'.ancestorTitles ∧
            Suites.placeOf? (written.suites {}) (t.keyed (f.path {})) = some 0 ∧
            Suites.placeOf? (written.suites {}) (t'.keyed (f.path {})) = some 0)) = true := by
    unfold joinedTitlesOutput
    simp only [String.toList_append]
    decide +kernel
  obtain ⟨members, written, hfound, hwritten, hfacts⟩ := exists_of_any hchecked
  exact ⟨members, written, hfound, hwritten, of_decide_eq_true hfacts⟩

/-- The tests of the first two suites stand in one, and share it with no other test. -/
theorem Adapter.place_eq_iff_joinedTitles :
    ∃ r, Adapter.decode ⟨.jest, {}, {}⟩ {} joinedTitlesOutput .epoch = .ok r ∧
      r.suites.map (fun s => (s.name, s.tests.map (·.name))) = [("a b", ["x", "y"]), ("c", ["z"])] ∧
      ∃ members written, locateReport joinedTitlesOutput.toList = .ok members ∧
        JestReport.ofMembers? members = .ok written ∧
        ∀ f ∈ written.files, ∀ t ∈ f.assertions, ∀ t' ∈ f.assertions,
          (Suites.placeOf? r.suites (t.keyed (f.path {})) =
              Suites.placeOf? r.suites (t'.keyed (f.path {})) ↔
            t.ancestorTitles = t'.ancestorTitles ∨ t.IsMixedUp t' (f.path {})) := by
  obtain ⟨_, _, hfound, hwritten, hnames, -⟩ := JestReport.exists_of_joinedTitlesOutput
  have hdecode := decode_jest_of_ofMembers? hfound hwritten {} {} {} .epoch
  obtain ⟨members, written, hfound, hwritten, -, hplaces⟩ := place_eq_iff rfl hdecode
  refine ⟨_, hdecode, hnames, members, written, hfound, hwritten, fun f hf t ht t' ht' => ?_⟩
  simpa using (hplaces f hf t ht f hf t' ht').2

/-- Tests with different titles around them stand in one suite. -/
theorem Adapter.place_eq_of_joinedTitlesOutput :
    ∃ r, Adapter.decode ⟨.jest, {}, {}⟩ {} joinedTitlesOutput .epoch = .ok r ∧
      ∃ members written, locateReport joinedTitlesOutput.toList = .ok members ∧
        JestReport.ofMembers? members = .ok written ∧
        ∃ f ∈ written.files, ∃ t ∈ f.assertions, ∃ t' ∈ f.assertions,
          t.ancestorTitles ≠ t'.ancestorTitles ∧
          Suites.placeOf? r.suites (t.keyed (f.path {})) = some 0 ∧
          Suites.placeOf? r.suites (t'.keyed (f.path {})) = some 0 := by
  obtain ⟨members, written, hfound, hwritten, -, hshared⟩ := JestReport.exists_of_joinedTitlesOutput
  exact ⟨_, decode_jest_of_ofMembers? hfound hwritten {} {} {} .epoch, members, written, hfound,
    hwritten, hshared⟩

end TestReport
