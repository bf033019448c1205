import TestReport.Digest
import TestReport.Proofs.WrittenLines
import TestReport.Text.Split

/-!
# The lines of a list of failures

The failures of a result are printed one after the other, each on a title line with its suite, its
name and its file (`LocatedTest.TitledAs`), and behind it on one more line with the error, if the
test has one. Messages are arbitrary texts, of many lines or of none. Only one line of a message is
printed: the first one that is not blank, without the blanks around it (`Text.IsFirstLine`), or
nothing of a message that is all blanks. So a message neither adds lines to the list nor hides any.

The names of tests, suites, files and error types are printed as they are. A line feed in one of
them would end the line, and so the lines of the list are told where no name has one
(`LocatedTest.IsOneLine`). `Report.failureList_lists` says which lines they are.
-/

namespace TestReport

/-! ## The first line of a message -/

namespace Text

/-- Whether a line is the first one of a text that is not blank, trimmed: nothing but blanks stands
before it, and nothing but blanks behind it in its line. -/
structure IsFirstLine (line text : List Char) : Prop where
  exists_append : ∃ before after rest, text = before ++ line ++ after ++ rest ∧
    (∀ c ∈ before, isBlank c = true) ∧ (∀ c ∈ after, isBlank c = true) ∧
    (rest = [] ∨ ∃ more, rest = '\n' :: more)
  line_feed_not_mem : '\n' ∉ line
  ne_nil : line ≠ []
  head_not_blank : ∀ c ∈ line.head?, isBlank c = false
  last_not_blank : ∀ c ∈ line.getLast?, isBlank c = false

/-- What is quoted of a text in one line. -/
inductive Quotes (text : List Char) : List Char → Prop
  | blank (h : ∀ c ∈ text, isBlank c = true) : Quotes text []
  | line {line : List Char} (h : IsFirstLine line text) : Quotes text line

/-! ### Trimmed lines -/

theorem trimmedLines_cons_of_blank {line : List Char} (h : trim line = [])
    (rest : List (List Char)) : trimmedLines (line :: rest) = trimmedLines rest := by
  simp [trimmedLines, h]

theorem trimmedLines_cons_of_not_blank {line : List Char} (h : trim line ≠ [])
    (rest : List (List Char)) :
    trimmedLines (line :: rest) = trim line :: trimmedLines rest := by
  simp [trimmedLines, h]

/-! ### Lines and line ends -/

theorem IsFirstLine.append_of_blank {line text before : List Char} (h : IsFirstLine line text)
    (hbefore : ∀ c ∈ before, isBlank c = true) : IsFirstLine line (before ++ text) := by
  obtain ⟨front, after, rest, rfl, hfront, hafter, hrest⟩ := h.exists_append
  refine { h with exists_append := ⟨before ++ front, after, rest, by simp, ?_, hafter, hrest⟩ }
  intro c hc
  exact (List.mem_append.1 hc).elim (hbefore c) (hfront c)

section FirstLine

variable {line gap rest : List Char} (hline : '\n' ∉ line)

include hline

/-- A line that is not blank is the first one of every text that starts with it. -/
theorem isFirstLine_trim (hne : trim line ≠ []) (hgap : ∀ c ∈ gap, isBlank c = true)
    (hrest : rest = [] ∨ ∃ more, rest = '\n' :: more) :
    IsFirstLine (trim line) (line ++ gap ++ rest) := by
  obtain ⟨before, after, hbefore, hafter, hpadded⟩ := isPadded_trim line
  have hmem : ∀ c ∈ trim line, c ∈ line := by
    intro c hc
    rw [hpadded]
    exact List.mem_append_left _ (List.mem_append_right _ hc)
  refine
    { exists_append := ⟨before, after ++ gap, rest, ?_, hbefore, fun c hc => ?_, hrest⟩
      line_feed_not_mem := fun hfeed => hline (hmem _ hfeed)
      ne_nil := hne
      head_not_blank := head_trim_not_blank line
      last_not_blank := last_trim_not_blank line }
  · nth_rewrite 1 [hpadded]
    simp
  · exact (List.mem_append.1 hc).elim (hafter c) (hgap c)

/-- A line that ends with a line feed is quoted, or else what is quoted of the text behind it. -/
theorem Quotes.append_feed {written : List (List Char)} (hgap : ∀ c ∈ gap, isBlank c = true)
    (h : Quotes rest ((trimmedLines written).headD [])) :
    Quotes (line ++ gap ++ '\n' :: rest) ((trimmedLines (line :: written)).headD []) := by
  by_cases hblank : trim line = []
  · rw [trimmedLines_cons_of_blank hblank]
    have hbefore : ∀ c ∈ line ++ gap ++ ['\n'], isBlank c = true := by
      intro c hc
      rcases List.mem_append.1 hc with hc | hc
      · exact (List.mem_append.1 hc).elim (forall_isBlank_of_trim_eq_nil hblank c) (hgap c)
      · obtain rfl := List.mem_singleton.1 hc
        decide
    rw [List.append_cons]
    generalize (trimmedLines written).headD [] = quoted at h
    cases h with
    | blank h => exact .blank fun c hc => (List.mem_append.1 hc).elim (hbefore c) (h c)
    | line h => exact .line (h.append_of_blank hbefore)
  · rw [trimmedLines_cons_of_not_blank hblank]
    exact .line (isFirstLine_trim hline hblank hgap (.inr ⟨rest, rfl⟩))

end FirstLine

theorem Spells.quotes {written : List (List Char)} {text : List Char} (h : Spells written text) :
    Quotes text ((trimmedLines written).headD []) := by
  have hnone : ∀ c ∈ ([] : List Char), isBlank c = true := nofun
  induction h with
  | nil => exact .blank nofun
  | @last line h =>
    by_cases hblank : trim line = []
    · rw [trimmedLines_cons_of_blank hblank]
      exact .blank (forall_isBlank_of_trim_eq_nil hblank)
    · have hfirst := isFirstLine_trim h hblank hnone (.inl rfl)
      rw [List.append_nil, List.append_nil] at hfirst
      rw [trimmedLines_cons_of_not_blank hblank]
      exact .line hfirst
  | @feed line text written h _ ih =>
    have hquotes := ih.append_feed h hnone
    rwa [List.append_nil] at hquotes
  | @returnFeed line text written h _ ih =>
    have hquotes := ih.append_feed h isBlank_return
    rwa [List.append_assoc] at hquotes

/-- The first line of a text is what is quoted of it. -/
theorem quotes_firstLine (text : List Char) : Quotes text (firstLine text) := by
  have hquotes := (spells_lines text).quotes
  rw [trimmedLines, List.headD_eq_head?_getD, List.head?_filter] at hquotes
  exact hquotes

theorem Quotes.line_feed_not_mem {text quoted : List Char} (h : Quotes text quoted) :
    '\n' ∉ quoted := by
  cases h with
  | blank _ => exact List.not_mem_nil
  | line h => exact h.line_feed_not_mem

/-! ### Texts of whole lines -/

theorem splitAll_append_cons {separator : Char} {piece : List Char} (h : separator ∉ piece)
    (rest : List Char) :
    splitAll separator (piece ++ separator :: rest) = piece :: splitAll separator rest := by
  induction piece with
  | nil => exact if_pos rfl
  | cons c piece ih =>
    obtain ⟨hc, hpiece⟩ := List.ne_and_not_mem_of_not_mem_cons h
    rw [List.cons_append, splitAll, if_neg (Ne.symm hc), ih hpiece]

/-- A text of whole lines is cut into these lines, and nothing is behind the last one. -/
theorem splitAll_flatMap {separator : Char} {pieces : List (List Char)}
    (h : ∀ piece ∈ pieces, separator ∉ piece) :
    splitAll separator (pieces.flatMap (· ++ [separator])) = pieces ++ [[]] := by
  induction pieces with
  | nil => rfl
  | cons piece pieces ih =>
    obtain ⟨hpiece, hpieces⟩ := List.forall_mem_cons.1 h
    rw [List.flatMap_cons, List.append_assoc, List.singleton_append, splitAll_append_cons hpiece,
      ih hpieces, List.cons_append]

end Text

/-! ## Lines about failures -/

/-- The line with an error: its type and what is quoted of its message, or only the type if the
message is blank. -/
inductive Failure.PrintsAs (f : Failure) : String → Prop
  | blank (h : ∀ c ∈ f.message.toList, Text.isBlank c = true) : PrintsAs f ("      " ++ f.kind)
  | line {line : List Char} (h : Text.IsFirstLine line f.message.toList) :
      PrintsAs f ("      " ++ f.kind ++ ": " ++ String.ofList line)

/-- The sign in front of a failure. -/
inductive Status.SignsFailure : Status → String → Prop
  | failed : SignsFailure .failed "✘"
  | timedOut : SignsFailure .timedOut "⧖"

/-- The line that names a failure: its sign, its suite and its own name, and behind them the file in
parentheses, unless there is none. -/
inductive LocatedTest.TitledAs (t : LocatedTest) : String → Prop
  | inFile {sign : String} (hsign : t.test.status.SignsFailure sign) (hfile : t.filePath ≠ "") :
      TitledAs t ("  " ++ sign ++ " " ++ t.suiteName ++ " › " ++ t.test.name ++ "  (" ++
        t.filePath ++ ")")
  | anywhere {sign : String} (hsign : t.test.status.SignsFailure sign) (hfile : t.filePath = "") :
      TitledAs t ("  " ++ sign ++ " " ++ t.suiteName ++ " › " ++ t.test.name)

/-- The lines about some failures: a title line for each of them in turn, and behind it the line
with the error exactly if there is one. -/
inductive PrintsFailures : List LocatedTest → List String → Prop
  | nil : PrintsFailures [] []
  | failing {t : LocatedTest} {f : Failure} {title line : String} {tests : List LocatedTest}
      {lines : List String} (htitle : t.TitledAs title) (herror : t.test.error = some f)
      (hline : f.PrintsAs line) (rest : PrintsFailures tests lines) :
      PrintsFailures (t :: tests) (title :: line :: lines)
  | silent {t : LocatedTest} {title : String} {tests : List LocatedTest} {lines : List String}
      (htitle : t.TitledAs title) (herror : t.test.error = none)
      (rest : PrintsFailures tests lines) : PrintsFailures (t :: tests) (title :: lines)

/-- Whether none of the names that are printed about a test has a line feed. -/
structure LocatedTest.IsOneLine (t : LocatedTest) : Prop where
  name : '\n' ∉ t.test.name.toList
  suiteName : '\n' ∉ t.suiteName.toList
  filePath : '\n' ∉ t.filePath.toList
  kind : ∀ f, t.test.error = some f → '\n' ∉ f.kind.toList

theorem Failure.printsAs_errorLine (f : Failure) : f.PrintsAs (Report.errorLine f) := by
  have hquotes := Text.quotes_firstLine f.message.toList
  unfold Report.errorLine
  generalize Text.firstLine f.message.toList = quoted at hquotes
  cases hquotes with
  | blank h => exact .blank h
  | line h =>
    have hne : (String.ofList quoted).isEmpty = false := by
      simpa using h.ne_nil
    dsimp only
    rw [hne]
    exact .line h

theorem Failure.line_feed_not_mem_errorLine {f : Failure} (h : '\n' ∉ f.kind.toList) :
    '\n' ∉ (Report.errorLine f).toList := by
  have hquoted := (Text.quotes_firstLine f.message.toList).line_feed_not_mem
  unfold Report.errorLine
  dsimp only
  split <;> simp [h, hquoted]

theorem LocatedTest.IsOneLine.line_feed_not_mem_titleLine {t : LocatedTest} (h : t.IsOneLine) :
    '\n' ∉ (Report.titleLine t).toList := by
  have hicon : '\n' ∉ t.test.status.icon.toList := by
    cases t.test.status <;> decide
  unfold Report.titleLine
  split <;> simp [hicon, h.name, h.suiteName, h.filePath]

theorem LocatedTest.IsOneLine.line_feed_not_mem {t : LocatedTest} (h : t.IsOneLine) :
    ∀ line ∈ Report.failureLines t, '\n' ∉ line.toList := by
  intro line hline
  rcases List.mem_cons.1 hline with rfl | hline
  · exact h.line_feed_not_mem_titleLine
  · obtain ⟨f, hf, rfl⟩ := Option.map_eq_some_iff.1 (Option.mem_toList.1 hline)
    exact Failure.line_feed_not_mem_errorLine (h.kind f hf)

theorem Status.signsFailure_icon {s : Status} (h : s.isFailure = true) :
    s.SignsFailure s.icon := by
  rcases Status.isFailure_iff.1 h with rfl | rfl
  · exact .failed
  · exact .timedOut

theorem LocatedTest.titledAs_titleLine {t : LocatedTest} (h : t.test.status.isFailure = true) :
    t.TitledAs (Report.titleLine t) := by
  have hsign := Status.signsFailure_icon h
  unfold Report.titleLine
  by_cases hfile : t.filePath = ""
  · rw [if_pos (String.isEmpty_iff.2 hfile), String.append_empty]
    exact .anywhere hsign hfile
  · rw [if_neg (mt String.isEmpty_iff.1 hfile), ← String.append_assoc, ← String.append_assoc]
    exact .inFile hsign hfile

theorem printsFailures_flatMap {tests : List LocatedTest}
    (h : ∀ t ∈ tests, t.test.status.isFailure = true) :
    PrintsFailures tests (tests.flatMap Report.failureLines) := by
  induction tests with
  | nil => exact .nil
  | cons t tests ih =>
    obtain ⟨ht, htests⟩ := List.forall_mem_cons.1 h
    have htitle := LocatedTest.titledAs_titleLine ht
    rw [List.flatMap_cons, Report.failureLines]
    cases herror : t.test.error with
    | none => exact .silent htitle herror (ih htests)
    | some f => exact .failing htitle herror f.printsAs_errorLine (ih htests)

theorem PrintsFailures.length_eq {tests : List LocatedTest} {lines : List String}
    (h : PrintsFailures tests lines) :
    lines.length = tests.length + tests.countP (·.test.error.isSome) := by
  induction h with
  | nil => rfl
  | failing _ herror _ _ ih =>
    rw [List.length_cons, List.length_cons, List.length_cons, ih, List.countP_cons, herror]
    simp only [Option.isSome_some, if_true]
    omega
  | silent _ herror _ ih =>
    rw [List.length_cons, List.length_cons, ih, List.countP_cons, herror]
    simp only [Option.isSome_none, Bool.false_eq_true, if_false]
    omega

namespace Report

variable (r : Report) (label : String)

theorem isFailure_of_mem_failedTests {r : Report} {t : LocatedTest} (h : t ∈ r.failedTests) :
    t.test.status.isFailure = true := by
  obtain ⟨suite, -, ht⟩ := List.mem_flatMap.1 h
  obtain ⟨u, hu, rfl⟩ := List.mem_map.1 ht
  exact (List.mem_filter.1 hu).2

theorem toList_failureList (h : r.failedTests ≠ []) :
    (r.failureList label).toList =
      (((label ++ ":") :: r.failedTests.flatMap failureLines).map String.toList).flatMap
        (· ++ ['\n']) := by
  have hne : r.failedTests.isEmpty = false := by simpa using h
  unfold failureList
  dsimp only
  rw [hne]
  simp [String.toList_join, List.flatMap_map]

theorem failureList_eq_empty_iff : r.failureList label = "" ↔ r.failedTests = [] := by
  constructor
  · intro hempty
    refine Decidable.byContradiction fun hne => ?_
    have hlist := r.toList_failureList label hne
    rw [hempty] at hlist
    simp at hlist
  · intro hnil
    simp [failureList, hnil]

/-- The list of failures is empty exactly if nothing failed. Otherwise, where no name in it has a
line feed, its lines are the one with the label and then, for every failure in turn, a title line
and, exactly if the test has an error, one line with the error. There are no other lines, whatever
the messages are. -/
theorem failureList_lists :
    (r.failureList label = "" ↔ r.failedTests = []) ∧
      (r.failedTests ≠ [] → '\n' ∉ label.toList → (∀ t ∈ r.failedTests, t.IsOneLine) →
        ∃ lines, PrintsFailures r.failedTests lines ∧
          lines.length =
            r.failedTests.length + r.failedTests.countP (·.test.error.isSome) ∧
          Text.splitAll '\n' (r.failureList label).toList =
            ((label ++ ":") :: lines).map String.toList ++ [[]]) := by
  refine ⟨r.failureList_eq_empty_iff label, fun hne hlabel htests => ?_⟩
  have hprints := printsFailures_flatMap fun t (ht : t ∈ r.failedTests) =>
    isFailure_of_mem_failedTests ht
  refine ⟨_, hprints, hprints.length_eq, ?_⟩
  rw [toList_failureList r label hne]
  refine Text.splitAll_flatMap (List.forall_mem_map.2 (List.forall_mem_cons.2 ⟨?_, ?_⟩))
  · simpa using hlabel
  · intro line hline
    obtain ⟨t, ht, hline⟩ := List.mem_flatMap.1 hline
    exact (htests t ht).line_feed_not_mem line hline

/-- Three failures: with a message of many lines that starts with blank ones, without an error, and
with a message of blanks only. The one without an error has no file either. -/
def manyLinesReport : Report :=
  { suites := [
      { name := "S", filePath := "s.js", tests := [
          { name := "t", status := .failed, error := some
              { message := "\r\n \n  boom: x \r\n at y", kind := "TypeError" } },
          { name := "u", status := .timedOut, filePath := some "" },
          { name := "v", status := .failed, error := some { message := " \n\t\r" } }] }] }

theorem failureList_lists_manyLines :
    ∃ lines, PrintsFailures manyLinesReport.failedTests lines ∧
      lines = ["  ✘ S › t  (s.js)", "      TypeError: boom: x", "  ⧖ S › u", "  ✘ S › v  (s.js)",
        "      Error"] ∧
      Text.splitAll '\n' (manyLinesReport.failureList "run").toList =
        ("run:" :: lines).map String.toList ++ [[]] := by
  have hnames : ∀ t ∈ manyLinesReport.failedTests, t.IsOneLine := by
    have hchecked : ∀ t ∈ manyLinesReport.failedTests,
        '\n' ∉ t.test.name.toList ∧ '\n' ∉ t.suiteName.toList ∧ '\n' ∉ t.filePath.toList ∧
          ∀ f ∈ t.test.error, '\n' ∉ f.kind.toList := by
      decide +kernel
    intro t ht
    obtain ⟨hname, hsuite, hfile, hkind⟩ := hchecked t ht
    exact ⟨hname, hsuite, hfile, hkind⟩
  have hne : manyLinesReport.failedTests ≠ [] := by decide
  obtain ⟨lines, hprints, -, hlines⟩ :=
    (failureList_lists manyLinesReport "run").2 hne (by decide) hnames
  have hprinted : Text.splitAll '\n' (manyLinesReport.failureList "run").toList =
      ["run:", "  ✘ S › t  (s.js)", "      TypeError: boom: x", "  ⧖ S › u", "  ✘ S › v  (s.js)",
        "      Error"].map String.toList ++ [[]] := by
    decide +kernel
  have htexts := List.append_cancel_right (hlines.symm.trans hprinted)
  have hlist := List.map_injective_iff.2 (fun _ _ => String.toList_inj.1) htexts
  exact ⟨lines, hprints, (List.cons.inj hlist).2, hlines⟩

end Report

end TestReport
