import TestReport.Json.Printer
import TestReport.Proofs.BridgeReport
import TestReport.Proofs.Grouping
import TestReport.Proofs.LatestEnd
import TestReport.Proofs.Readings
import TestReport.Proofs.Slashes

/-!
# The order of files

A Jest report lists its files in some order. The order shows in the suites, but in nothing that is
counted or that says when the run was: two reports with the same files have the same summary and
the same tests (`JestReport.SameFiles`). Each of the four things that are gathered from file to file
depends on which files there are and not on their order: the tests, the number of files that could
not be run, the latest end, and the console, which is not part of a summary.

`JestReport.decode_reordered` says this of two texts of reports. Either both are read, or neither
is, although the error of an unreadable report may name another file.
-/

namespace TestReport

open Json (Alike DifferAt canonicalMembers)

/-! ## Reports with the same files -/

namespace JestReport

/-- Two reports that differ in the order of their files at most. -/
structure SameFiles (r r' : JestReport) : Prop where
  files_perm : r.files.Perm r'.files
  eq_files : r' = { r with files := r'.files }

variable {r r' : JestReport}

theorem SameFiles.listed_perm (h : SameFiles r r') (options : Options) :
    (r.listed options).Perm (r'.listed options) :=
  h.files_perm.flatMap_right _

theorem SameFiles.allTests_perm (h : SameFiles r r') (options : Options) :
    (allTests (r.suites options)).Perm (allTests (r'.suites options)) := by
  have htests := (h.listed_perm options).map (·.2)
  exact (r.allTests_suites_perm options).trans
    (htests.trans (r'.allTests_suites_perm options).symm)

theorem SameFiles.runErrors_eq (h : SameFiles r r') : r.runErrors = r'.runErrors := by
  rw [runErrors, runErrors, h.files_perm.countP_eq]

theorem SameFiles.latestEnd?_eq (h : SameFiles r r') : r.latestEnd? = r'.latestEnd? := by
  have hends : r.HasFileEnd = r'.HasFileEnd := by
    funext t
    simp only [HasFileEnd, h.files_perm.mem_iff]
  ext t
  rw [latestEnd?_eq_some_iff, latestEnd?_eq_some_iff, hends]

theorem SameFiles.summary_eq (h : SameFiles r r') (options : Options) (now : Instant) :
    r.summary (r.suites options) now = r'.summary (r'.suites options) now := by
  have htally : Summary.tally (r.suites options) = Summary.tally (r'.suites options) :=
    Summary.tally_eq_of_perm ((h.allTests_perm options).map _)
  unfold summary
  rw [htally, h.runErrors_eq, h.latestEnd?_eq, h.eq_files]

end JestReport

/-! ## Reading the files in another order -/

/-- The members of a report with its files. -/
def withFiles (own : List (String × Json)) (files : List Json) : List (String × Json) :=
  own ++ [("testResults", .arr files)]

/-- Two arrays with the same items, but for their order. -/
def SameItems (v w : Json) : Prop :=
  ∃ items items', v = .arr items ∧ w = .arr items' ∧ items.Perm items'

theorem Json.exists_insert_eq {α : Type} (key : String) (members : List (String × α)) :
    ∃ before after, ∀ value, Json.insert key value members = before ++ (key, value) :: after := by
  induction members with
  | nil => exact ⟨[], [], fun _ => rfl⟩
  | cons m members ih =>
    obtain ⟨k, v⟩ := m
    obtain ⟨before, after, hinsert⟩ := ih
    by_cases heq : key = k
    · exact ⟨[], members, fun value => by simp [Json.insert, heq]⟩
    · by_cases hlt : key < k
      · exact ⟨[], (k, v) :: members, fun value => by simp [Json.insert, heq, hlt]⟩
      · exact ⟨(k, v) :: before, after, fun value => by simp [Json.insert, heq, hlt, hinsert]⟩

theorem canonicalObject_withFiles (own : List (String × Json)) (files : List Json) :
    canonicalObject (withFiles own files) =
      Json.insert "testResults" (.arr (Json.canonicalItems files)) (canonicalObject own) := by
  unfold canonicalObject withFiles
  simp only [canonicalMembers_eq_map, Json.sortMembers, List.map_append, List.foldl_append]
  rfl

theorem canonicalItems_eq_map (items : List Json) :
    Json.canonicalItems items = items.map Json.canonical := by
  induction items with
  | nil => rfl
  | cons v items ih => rw [Json.canonicalItems, ih, List.map_cons]

theorem alike_read_list {files files' : List Json} (h : files.Perm files') (inner : Json.Shape) :
    Alike SameItems (inner.list.read (.arr files)) (inner.list.read (.arr files')) := by
  simp only [Json.Shape.read]
  exact (Alike.mapM_of_perm h).bind fun items items' hitems =>
    .given ⟨items, items', rfl, rfl, hitems⟩

/-- What is built out of members that differ in the order of the files has the same files. -/
theorem JestReport.sameFiles_ofPlain {members members' : List (String × Json)}
    (h : DifferAt "testResults" SameItems members members') :
    SameFiles (ofPlain (.obj members)) (ofPlain (.obj members')) := by
  have hget : ∀ key, key ≠ "testResults" →
      (Json.obj members).get? key = (Json.obj members').get? key := fun key hne => h.lookup_eq hne
  have hitems : ((Json.obj members).itemsAt "testResults").Perm
      ((Json.obj members').itemsAt "testResults") := by
    unfold Json.itemsAt
    rcases h.lookup_self with heq | ⟨_, _, hv, hw, items, items', rfl, rfl, hperm⟩
    · have hsame : (Json.obj members).get? "testResults" = (Json.obj members').get? "testResults" :=
        heq
      rw [hsame]
    · have hleft : (Json.obj members).get? "testResults" = some (.arr items) := hv
      have hright : (Json.obj members').get? "testResults" = some (.arr items') := hw
      rw [hleft, hright]
      exact hperm
  refine { files_perm := hitems.map _, eq_files := ?_ }
  simp (disch := decide) only [ofPlain, Json.wordAt?, Json.timeAt?, Json.floatAt?, Json.flagAt?,
    Json.stringAt?, hget]

theorem JestReport.alike_ofMembers? (own : List (String × Json)) {files files' : List Json}
    (h : files.Perm files') :
    Alike SameFiles (ofMembers? (canonicalObject (withFiles own files)))
      (ofMembers? (canonicalObject (withFiles own files'))) := by
  have hcanonical : (Json.canonicalItems files).Perm (Json.canonicalItems files') := by
    rw [canonicalItems_eq_map, canonicalItems_eq_map]
    exact h.map _
  obtain ⟨before, after, hinsert⟩ := Json.exists_insert_eq "testResults" (canonicalObject own)
  rw [canonicalObject_withFiles, canonicalObject_withFiles, hinsert, hinsert]
  have hread : Alike (fun v w => ∃ members members',
        DifferAt "testResults" SameItems members members' ∧ v = .obj members ∧ w = .obj members')
      (Json.Shape.jestReport.read
        (.obj (before ++ ("testResults", .arr (Json.canonicalItems files)) :: after)))
      (Json.Shape.jestReport.read
        (.obj (before ++ ("testResults", .arr (Json.canonicalItems files')) :: after))) := by
    unfold Json.Shape.jestReport
    refine Alike.read_record
      (?slot : _ = some (({ name := "testResults" } : Json.Slot), Json.Shape.jestFile.list)) rfl
      (alike_read_list hcanonical Json.Shape.jestFile) _ before after
    rfl
  unfold ofMembers?
  cases hread.cases with
  | inl hfailed =>
    obtain ⟨e, e', he, he'⟩ := hfailed
    rw [he, he']
    exact .failed _ _
  | inr hgiven =>
    obtain ⟨_, _, hv, hw, members, members', hdiffer, rfl, rfl⟩ := hgiven
    rw [hv, hw]
    exact .given (sameFiles_ofPlain hdiffer)

/-! ## Marks in a text with an array -/

/-- Whether a key stands somewhere in a text with its quotes and its colon, without escapes. -/
def HasMark (marker : String) (s : List Char) : Prop :=
  ∃ t, t <:+ s ∧ StartsWithMark marker t

/-- Whether a character is no part of the mark of a key. -/
def IsOutsideMark (marker : String) (c : Char) : Prop :=
  c ≠ '"' ∧ c ≠ ':' ∧ Text.isBlank c = false ∧ c ∉ marker.toList

instance (marker : String) (c : Char) : Decidable (IsOutsideMark marker c) :=
  inferInstanceAs (Decidable (_ ∧ _))

theorem StartsWithMark.append {marker : String} {s : List Char} (h : StartsWithMark marker s)
    (t : List Char) : StartsWithMark marker (s ++ t) := by
  obtain ⟨blanks, after, hblanks, rfl⟩ := h
  exact ⟨blanks, after ++ t, hblanks, by simp⟩

theorem startsWithMark_of_append_cons {marker : String} {c : Char} (hc : IsOutsideMark marker c)
    {s t : List Char} (h : StartsWithMark marker (s ++ c :: t)) : StartsWithMark marker s := by
  obtain ⟨blanks, after, hblanks, heq⟩ := h
  have hinside : ∀ d ∈ '"' :: (marker.toList ++ '"' :: (blanks ++ [':'])), d ≠ c := by
    obtain ⟨hquote, hcolon, hblank, hmarker⟩ := hc
    intro d hd
    simp only [List.mem_cons, List.mem_append, List.not_mem_nil, or_false] at hd
    rintro rfl
    rcases hd with hd | hd | hd | hd | hd
    · exact hquote hd
    · exact hmarker hd
    · exact hquote hd
    · rw [hblanks d hd] at hblank
      cases hblank
    · exact hcolon hd
  have hsplit : s ++ c :: t = ('"' :: (marker.toList ++ '"' :: (blanks ++ [':']))) ++ after := by
    rw [heq]
    simp
  -- If the mark were longer than what stands before the character, it would have it inside.
  rcases List.append_eq_append_iff.1 hsplit with ⟨rest, hmark, hrest⟩ | ⟨rest, rfl, -⟩
  · cases rest with
    | nil =>
      refine ⟨blanks, [], hblanks, ?_⟩
      rw [← List.append_nil s, ← hmark]
    | cons d rest =>
      obtain rfl := (List.cons.inj hrest).1
      exact absurd rfl (hinside c (by rw [hmark]; simp))
  · exact ⟨blanks, rest, hblanks, by simp⟩

/-- A mark does not reach over a character that is no part of it. -/
theorem hasMark_append_cons_iff {marker : String} {c : Char} (hc : IsOutsideMark marker c)
    {s t : List Char} : HasMark marker (s ++ c :: t) ↔ HasMark marker s ∨ HasMark marker t := by
  constructor
  · rintro ⟨u, ⟨w, hw⟩, hmark⟩
    rcases List.append_eq_append_iff.1 hw with ⟨s₂, rfl, rfl⟩ | ⟨t₁, rfl, ht⟩
    · exact .inl ⟨s₂, List.suffix_append w s₂, startsWithMark_of_append_cons hc hmark⟩
    · cases t₁ with
      | nil =>
        obtain ⟨blanks, after, -, rfl⟩ := hmark
        exact absurd (List.cons.inj ht).1 hc.1
      | cons d t₁ => exact .inr ⟨u, ⟨t₁, (List.cons.inj ht).2.symm⟩, hmark⟩
  · rintro (⟨u, ⟨w, rfl⟩, hmark⟩ | ⟨u, hu, hmark⟩)
    · exact ⟨u ++ c :: t, ⟨w, (List.append_assoc ..).symm⟩, hmark.append _⟩
    · exact ⟨u, hu.trans ((List.suffix_cons c t).trans (List.suffix_append s _)), hmark⟩

/-- The items of an array have a mark if one of them has it. -/
theorem hasMark_intercalate_iff {marker : String} (hc : IsOutsideMark marker ',')
    {items : List (List Char)} :
    HasMark marker ([','].intercalate items) ↔ ∃ item ∈ items, HasMark marker item := by
  induction items with
  | nil =>
    have hnone : ¬HasMark marker [] := by
      rintro ⟨t, ht, blanks, after, -, rfl⟩
      cases List.suffix_nil.1 ht
    simpa using hnone
  | cons item items ih =>
    cases items with
    | nil => simp [List.intercalate]
    | cons next items =>
      have hjoin : [','].intercalate (item :: next :: items) =
          item ++ ',' :: [','].intercalate (next :: items) := by
        simp [List.intercalate]
      rw [hjoin, hasMark_append_cons_iff hc, ih]
      simp only [List.mem_cons, exists_eq_or_imp]

/-- Two texts that differ in the order of the items of an array. -/
def DifferInOrder (s s' : List Char) : Prop :=
  ∃ before after items items', items.Perm items' ∧
    s = before ++ '[' :: ([','].intercalate items ++ ']' :: after) ∧
    s' = before ++ '[' :: ([','].intercalate items' ++ ']' :: after)

/-- The order of the items of an array makes no difference to marks. -/
theorem DifferInOrder.hasMark_iff {s s' : List Char} (h : DifferInOrder s s') {marker : String}
    (hopen : IsOutsideMark marker '[') (hcomma : IsOutsideMark marker ',')
    (hclose : IsOutsideMark marker ']') : HasMark marker s ↔ HasMark marker s' := by
  obtain ⟨before, after, items, items', hperm, rfl, rfl⟩ := h
  simp only [hasMark_append_cons_iff hopen, hasMark_append_cons_iff hclose,
    hasMark_intercalate_iff hcomma, hperm.mem_iff]

/-! ## Two texts of a report -/

/-- A text of a report without the mark of the bridge form is taken for its report if the counter is
written without escapes, and otherwise there is no report in it. -/
theorem IsTextOf.locateReport_eq {text : String} {members : List (String × Json)}
    (h : IsTextOf text members) (hcounted : "numTotalTests" ∈ members.map (·.1))
    (hplain : ¬HasMark "aggregated" text.toList) :
    (HasMark "numTotalTests" text.toList →
      locateReport text.toList = .ok (canonicalObject members)) ∧
    (¬HasMark "numTotalTests" text.toList →
      locateReport text.toList = .error (.noPayload "jest" "numTotalTests")) := by
  unfold locateReport
  rw [findObject_of_no_mark hplain]
  exact ⟨fun hmark => h.findObject_eq hcounted hmark "jest",
    fun hnone => findObject_of_no_mark hnone "jest"⟩

/-- Two texts of a Jest report that differ in the order of its files. Neither has the mark of the
bridge form, and the key of the counter is written without escapes in both texts or in neither. Then
both are read or neither is, and the results have the same summary, the same coverage and the same
tests.

Texts that differ in nothing but the order of the files have the same marks
(`DifferInOrder.hasMark_iff`). -/
theorem JestReport.decode_reordered {output output' : String} {own : List (String × Json)}
    {files files' : List Json} (hperm : files.Perm files')
    (htext : IsTextOf output (withFiles own files))
    (htext' : IsTextOf output' (withFiles own files'))
    (hcounted : "numTotalTests" ∈ own.map (·.1))
    (hplain : ¬HasMark "aggregated" output.toList) (hplain' : ¬HasMark "aggregated" output'.toList)
    (hmark : HasMark "numTotalTests" output.toList ↔ HasMark "numTotalTests" output'.toList)
    (environment : Environment) (options : Options) (now : Instant) :
    Alike (fun r r' : Report => r.summary = r'.summary ∧ r.coverage = r'.coverage ∧
        (allTests r.suites).Perm (allTests r'.suites))
      (decode environment options output now) (decode environment options output' now) := by
  have hkey : ∀ files, "numTotalTests" ∈ (withFiles own files).map (·.1) := by
    intro files
    rw [withFiles, List.map_append]
    exact List.mem_append_left _ hcounted
  obtain ⟨hfound, hnone⟩ := htext.locateReport_eq (hkey files) hplain
  obtain ⟨hfound', hnone'⟩ := htext'.locateReport_eq (hkey files') hplain'
  unfold decode
  by_cases hshown : HasMark "numTotalTests" output.toList
  · have hcoverage : (canonicalObject (withFiles own files)).lookup "coverageMap" =
        (canonicalObject (withFiles own files')).lookup "coverageMap" := by
      rw [canonicalObject_withFiles, canonicalObject_withFiles,
        Json.lookup_insert_of_ne (by decide), Json.lookup_insert_of_ne (by decide)]
    rw [hfound hshown, hfound' (hmark.1 hshown)]
    refine (alike_ofMembers? own hperm).bind fun r r' hsame => .given ?_
    exact ⟨hsame.summary_eq options now, congrArg (·.bind Coverage.ofMap?) hcoverage,
      hsame.allTests_perm options⟩
  · rw [hnone hshown, hnone' fun h => hshown (hmark.2 h)]
    exact .failed _ _

/-- The text of a report with the given files. -/
def reportText (files : List Json) : String :=
  "\x7b\"numTotalTests\":1,\"testResults\":[" ++
    ",".intercalate (files.map (Json.toText false)) ++ "]\x7d"

theorem toList_reportText (files : List Json) : (reportText files).toList =
    "\x7b\"numTotalTests\":1,\"testResults\":[".toList ++
      ([','].intercalate (files.map Json.compact) ++ "]\x7d".toList) := by
  have hcomma : ",".toList = [','] := rfl
  have htexts : (files.map (Json.toText false)).map String.toList = files.map Json.compact := by
    rw [List.map_map]
    exact List.map_congr_left fun v _ => String.toList_ofList
  unfold reportText
  simp only [String.toList_append, String.toList_intercalate, htexts, hcomma, List.append_assoc]

theorem differInOrder_reportText {files files' : List Json} (h : files.Perm files') :
    DifferInOrder (reportText files).toList (reportText files').toList := by
  have hopen : "\x7b\"numTotalTests\":1,\"testResults\":[".toList =
      "\x7b\"numTotalTests\":1,\"testResults\":".toList ++ ['['] := rfl
  refine ⟨"\x7b\"numTotalTests\":1,\"testResults\":".toList, ['\x7d'], files.map Json.compact,
    files'.map Json.compact, h.map _, ?_, ?_⟩ <;>
    rw [toList_reportText, hopen, List.append_assoc] <;> rfl

/-- A file with a test, and one that could not be run and ended later. -/
def unequalFiles : List Json :=
  [.obj [("name", .str "a.js"), ("endTime", .num (.int 5)),
      ("assertionResults", .arr [.obj [("title", .str "t")]])],
    .obj [("name", .str "b.js"), ("endTime", .num (.int 7)), ("status", .str "failed"),
      ("message", .str "gone")]]

/-- Swapping the two files moves the suites, but not the end of the run. -/
theorem JestReport.decode_reordered_swapped :
    Alike (fun r r' : Report => r.summary = r'.summary ∧ r.coverage = r'.coverage ∧
        (allTests r.suites).Perm (allTests r'.suites))
      (decode {} {} (reportText unequalFiles) .epoch)
      (decode {} {} (reportText unequalFiles.reverse) .epoch) ∧
    (decode {} {} (reportText unequalFiles) .epoch).toOption.map
      (fun r => (r.suites.map (·.name), r.summary.endTime.nano)) =
        some (["a.js", "b.js"], 7000000) ∧
    (decode {} {} (reportText unequalFiles.reverse) .epoch).toOption.map
      (fun r => (r.suites.map (·.name), r.summary.endTime.nano)) =
        some (["b.js", "a.js"], 7000000) := by
  have hdiffer := differInOrder_reportText (List.reverse_perm unequalFiles).symm
  have htext : IsTextOf (reportText unequalFiles)
      (withFiles [("numTotalTests", .num (.int 1))] unequalFiles) :=
    ⟨_, .of_readValue (by rw [toList_reportText]; decide +kernel), rfl⟩
  have htext' : IsTextOf (reportText unequalFiles.reverse)
      (withFiles [("numTotalTests", .num (.int 1))] unequalFiles.reverse) :=
    ⟨_, .of_readValue (by rw [toList_reportText]; decide +kernel), rfl⟩
  have hplain : ¬HasMark "aggregated" (reportText unequalFiles).toList := by
    have hnone : lastMark? "aggregated" 0 (reportText unequalFiles).toList = none := by
      rw [toList_reportText]
      decide +kernel
    rintro ⟨t, ht, hmark⟩
    have hsome := isSome_lastMark? ht hmark
    rw [hnone] at hsome
    cases hsome
  have hplain' : ¬HasMark "aggregated" (reportText unequalFiles.reverse).toList :=
    fun h => hplain ((hdiffer.hasMark_iff (by decide) (by decide) (by decide)).2 h)
  refine ⟨decode_reordered (List.reverse_perm _).symm htext htext' (by decide) hplain hplain'
    (hdiffer.hasMark_iff (by decide) (by decide) (by decide)) {} {} .epoch, ?_, ?_⟩
  · unfold decode
    rw [toList_reportText]
    decide +kernel
  · unfold decode
    rw [toList_reportText]
    decide +kernel

end TestReport
