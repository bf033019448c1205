import TestReport.Coverage
import TestReport.Proofs.Grouping
import TestReport.Proofs.Members
import Mathlib.Algebra.Order.BigOperators.Group.List
import Mathlib.Data.Set.Card

/-!
# Coverage adds up

The coverage of a map is counted over its files, and an entry that is no file counts for nothing.
So the counts of a map that is put together from others are the sums of theirs, in whatever order
the files come and however they are spread over the maps.

All of this rests on one fact (`Coverage.files_perm`): but for their order, the files of a map are
known by what is found under each name. The counts are sums over the files
(`Coverage.of_hits`), and sums do not mind the order. That no more things ran than there are is seen
file by file.

Lines are not in a file as such. `FileHits.startedLines` and `FileHits.ranLines` say which lines
there are and which were covered, as sets, and the counts of lines are the sizes of the sets.
-/

namespace TestReport

/-! ## The four counts -/

/-- The kinds of things that are counted. -/
inductive CoverageKind
  | statements
  | branches
  | functions
  | lines

/-- The counts of one kind. -/
def FileHits.of (h : FileHits) : CoverageKind → Hits
  | .statements => h.statements
  | .branches => h.branches
  | .functions => h.functions
  | .lines => h.lines

/-- The metric of one kind. -/
def Coverage.metric (c : Coverage) : CoverageKind → Metric
  | .statements => c.statements
  | .branches => c.branches
  | .functions => c.functions
  | .lines => c.lines

/-- What a map shows of one kind; a map without coverage counts nothing. -/
def Coverage.counted (map : Json) (kind : CoverageKind) : Metric :=
  ((ofMap? map).getD {}).metric kind

theorem FileHits.ext_of {a b : FileHits} (h : ∀ kind, a.of kind = b.of kind) : a = b := by
  obtain ⟨statements, branches, functions, lines⟩ := a
  obtain rfl : statements = b.statements := h .statements
  obtain rfl : branches = b.branches := h .branches
  obtain rfl : functions = b.functions := h .functions
  obtain rfl : lines = b.lines := h .lines
  rfl

theorem FileHits.of_foldl (files : List FileHits) (start : FileHits) (kind : CoverageKind) :
    (files.foldl (· + ·) start).of kind =
      ⟨(start.of kind).total + (files.map fun h => (h.of kind).total).sum,
        (start.of kind).covered + (files.map fun h => (h.of kind).covered).sum⟩ := by
  induction files generalizing start with
  | nil => rfl
  | cons h files ih =>
    have hadd : (start + h).of kind = ⟨(start.of kind).total + (h.of kind).total,
        (start.of kind).covered + (h.of kind).covered⟩ := by
      cases kind <;> rfl
    rw [List.foldl_cons, ih, hadd, List.map_cons, List.map_cons, List.sum_cons, List.sum_cons,
      Nat.add_assoc, Nat.add_assoc]

/-! ## Files and their lines -/

theorem Json.members?_eq_some_iff {v : Json} {members : List (String × Json)} :
    v.members? = some members ↔ v = .obj members := by
  cases v <;> simp [members?]

theorem Json.nat?_eq_some_iff {v : Json} {n : Nat} : v.nat? = some n ↔ v = .ofNat n := by
  constructor
  · intro h
    unfold nat? at h
    split at h
    · rw [Int.mem_toNat?.1 h]
      rfl
    · cases h
  · rintro rfl
    rfl

theorem Json.isPositive_iff {v : Json} : v.isPositive = true ↔ ∃ n, v = .ofNat n ∧ 0 < n := by
  simp [isPositive, Option.any_eq_true, nat?_eq_some_iff]

namespace FileHits

/-- What an entry holds, out of its wrapping. -/
def unwrapped (entry : Json) : Json :=
  (entry.get? "data").getD entry

/-- Whether an entry is a file: an object, in its wrapping or not, that has statement counts. -/
def IsFile (entry : Json) : Prop :=
  ∃ members, unwrapped entry = .obj members ∧ "s" ∈ members.map (·.1)

/-- Whether a statement starts on a line. -/
def Starts (location : Json) (line : Nat) : Prop :=
  ∃ start, location.get? "start" = some start ∧ start.get? "line" = some (.ofNat line)

/-- The lines on which a statement of a file starts. -/
def startedLines (entry : Json) : Set Nat :=
  {line | ∃ places runs id location, (unwrapped entry).get? "statementMap" = some (.obj places) ∧
    (unwrapped entry).get? "s" = some (.obj runs) ∧ (id, location) ∈ places ∧
    Starts location line}

/-- The lines on which a statement starts that ran. -/
def ranLines (entry : Json) : Set Nat :=
  {line | ∃ places runs id location n, (unwrapped entry).get? "statementMap" = some (.obj places) ∧
    (unwrapped entry).get? "s" = some (.obj runs) ∧ (id, location) ∈ places ∧
    Starts location line ∧ runs.lookup id = some (.ofNat n) ∧ 0 < n}

theorem startLine?_eq_some_iff {location : Json} {line : Nat} :
    startLine? location = some line ↔ Starts location line := by
  simp [startLine?, Starts, Option.bind_eq_some_iff, Json.nat?_eq_some_iff]

/-- What is counted is in the entry out of its wrapping. -/
theorem ofJson?_eq (entry : Json) :
    ofJson? entry =
      if ((unwrapped entry).get? "s").isSome then
        some
          { statements := Hits.ofTable? ((unwrapped entry).get? "s")
            branches := branchHits ((unwrapped entry).get? "b")
            functions := Hits.ofTable? ((unwrapped entry).get? "f")
            lines := lineHits ((unwrapped entry).get? "statementMap") ((unwrapped entry).get? "s") }
      else none :=
  rfl

theorem eq_of_ofJson? {entry : Json} {h : FileHits} (hfile : ofJson? entry = some h) :
    h =
      { statements := Hits.ofTable? ((unwrapped entry).get? "s")
        branches := branchHits ((unwrapped entry).get? "b")
        functions := Hits.ofTable? ((unwrapped entry).get? "f")
        lines := lineHits ((unwrapped entry).get? "statementMap")
          ((unwrapped entry).get? "s") } := by
  rw [ofJson?_eq] at hfile
  split at hfile
  · exact (Option.some.inj hfile).symm
  · cases hfile

theorem isFile_iff {entry : Json} : IsFile entry ↔ ((unwrapped entry).get? "s").isSome = true := by
  unfold IsFile
  cases unwrapped entry with
  | obj members => simp [Json.get?, Json.members?]
  | _ => simp [Json.get?, Json.members?]

theorem ofJson?_eq_none_iff {entry : Json} : ofJson? entry = none ↔ ¬ IsFile entry := by
  rw [ofJson?_eq, isFile_iff]
  split
  · next hs => simp [hs]
  · next hs => simp [hs]

theorem length_eraseDups_eq_ncard (l : List Nat) : l.eraseDups.length = {n | n ∈ l}.ncard := by
  have hset : {n | n ∈ l} = (l.eraseDups.toFinset : Set Nat) := by
    ext n
    simp
  rw [hset, Set.ncard_coe_finset, List.toFinset_card_of_nodup (nodup_eraseDups l)]

/-- Counting lines through statements, with the same line taken once. -/
theorem lineHits_objects (places runs : List (String × Json)) :
    lineHits (some (.obj places)) (some (.obj runs)) =
      ⟨{line | ∃ id location, (id, location) ∈ places ∧ Starts location line}.ncard,
        {line | ∃ id location n, (id, location) ∈ places ∧ Starts location line ∧
          runs.lookup id = some (.ofNat n) ∧ 0 < n}.ncard⟩ := by
  simp only [lineHits, Option.bind_some, Json.members?, length_eraseDups_eq_ncard]
  congr 2
  · ext line
    simp [startLine?_eq_some_iff]
  · ext line
    simp only [Set.mem_ofPred_eq, List.mem_map, List.mem_filter, List.mem_filterMap,
      Option.map_eq_some_iff, startLine?_eq_some_iff, Option.any_eq_true, Json.isPositive_iff]
    constructor
    · rintro ⟨_, ⟨⟨⟨id, location⟩, hmem, _, hstarts, rfl⟩, _, hruns, n, rfl, hpos⟩, rfl⟩
      exact ⟨id, location, n, hmem, hstarts, hruns, hpos⟩
    · rintro ⟨id, location, n, hmem, hstarts, hruns, hpos⟩
      exact ⟨(id, line), ⟨⟨(id, location), hmem, line, hstarts, rfl⟩, _, hruns, n, rfl, hpos⟩, rfl⟩

/-- The lines of an entry are counted as its sets of lines; there are none where the places or the
runs of statements are no object. -/
theorem lineHits_eq (entry : Json) :
    lineHits ((unwrapped entry).get? "statementMap") ((unwrapped entry).get? "s") =
      ⟨(startedLines entry).ncard, (ranLines entry).ncard⟩ := by
  by_cases hobjects : ∃ places runs, (unwrapped entry).get? "statementMap" = some (.obj places) ∧
      (unwrapped entry).get? "s" = some (.obj runs)
  · obtain ⟨places, runs, hplaces, hruns⟩ := hobjects
    rw [hplaces, hruns, lineHits_objects]
    simp [startedLines, ranLines, hplaces, hruns]
  · have hstarted : startedLines entry = ∅ := Set.eq_empty_of_forall_notMem
      fun _ ⟨places, runs, _, _, hplaces, hruns, _⟩ => hobjects ⟨places, runs, hplaces, hruns⟩
    have hran : ranLines entry = ∅ := Set.eq_empty_of_forall_notMem
      fun _ ⟨places, runs, _, _, _, hplaces, hruns, _⟩ => hobjects ⟨places, runs, hplaces, hruns⟩
    rw [hstarted, hran, Set.ncard_empty, lineHits]
    split
    · next hplaces hruns =>
      obtain ⟨v, hv, hplaces⟩ := Option.bind_eq_some_iff.1 hplaces
      obtain ⟨w, hw, hruns⟩ := Option.bind_eq_some_iff.1 hruns
      rw [Json.members?_eq_some_iff] at hplaces hruns
      exact absurd ⟨_, _, hplaces ▸ hv, hruns ▸ hw⟩ hobjects
    · rfl

theorem lines_eq_of_ofJson? {entry : Json} {h : FileHits} (hfile : ofJson? entry = some h) :
    h.lines = ⟨(startedLines entry).ncard, (ranLines entry).ncard⟩ := by
  rw [eq_of_ofJson? hfile, ← lineHits_eq]

/-- What is no file has no lines either. -/
theorem startedLines_eq_empty {entry : Json} (h : ¬ IsFile entry) : startedLines entry = ∅ := by
  refine Set.eq_empty_of_forall_notMem fun _ ⟨_, runs, _, _, _, hruns, _⟩ => h ?_
  rw [isFile_iff, hruns]
  rfl

theorem ranLines_subset (entry : Json) : ranLines entry ⊆ startedLines entry :=
  fun _ ⟨places, runs, id, location, _, hplaces, hruns, hmem, hstarts, _⟩ =>
    ⟨places, runs, id, location, hplaces, hruns, hmem, hstarts⟩

theorem finite_startedLines (entry : Json) : (startedLines entry).Finite := by
  by_cases hplaces : ∃ places, (unwrapped entry).get? "statementMap" = some (.obj places)
  · obtain ⟨places, hplaces⟩ := hplaces
    refine (List.finite_toSet (places.filterMap fun m => startLine? m.2)).subset ?_
    rintro line ⟨places', _, id, location, hplaces', -, hmem, hstarts⟩
    obtain rfl : places = places' := by simpa [hplaces] using hplaces'
    exact List.mem_filterMap.2 ⟨(id, location), hmem, startLine?_eq_some_iff.2 hstarts⟩
  · refine Set.finite_empty.subset ?_
    rintro line ⟨places, _, _, _, hplaces', -⟩
    exact absurd ⟨places, hplaces'⟩ hplaces

theorem covered_ofTable?_le (counts : Option Json) :
    (Hits.ofTable? counts).covered ≤ (Hits.ofTable? counts).total := by
  unfold Hits.ofTable?
  split
  · exact Hits.covered_ofList_le _
  · exact Nat.le_refl 0

theorem covered_branchHits_le (branches : Option Json) :
    (branchHits branches).covered ≤ (branchHits branches).total := by
  unfold branchHits
  split
  · exact Hits.covered_ofList_le _
  · exact Nat.le_refl 0

/-- In a file no more things of a kind ran than there are. -/
theorem covered_le_total {entry : Json} {h : FileHits} (hfile : ofJson? entry = some h)
    (kind : CoverageKind) : (h.of kind).covered ≤ (h.of kind).total := by
  have hlines : h.lines.covered ≤ h.lines.total := by
    rw [lines_eq_of_ofJson? hfile]
    exact Set.ncard_le_ncard (ranLines_subset entry) (finite_startedLines entry)
  rw [eq_of_ofJson? hfile] at hlines ⊢
  cases kind with
  | statements => exact covered_ofTable?_le _
  | branches => exact covered_branchHits_le _
  | functions => exact covered_ofTable?_le _
  | lines => exact hlines

end FileHits

/-! ## Sums over files -/

namespace Coverage

/-- The counts of a map are the sums of those of its files. -/
theorem of_hits (map : Json) (kind : CoverageKind) :
    (hits map).of kind = ⟨((files map).map fun h => (h.of kind).total).sum,
      ((files map).map fun h => (h.of kind).covered).sum⟩ := by
  have hzero : (({} : FileHits).of kind) = ⟨0, 0⟩ := by cases kind <;> rfl
  rw [hits, FileHits.of_foldl, hzero, Nat.zero_add, Nat.zero_add]

theorem covered_hits_le (map : Json) (kind : CoverageKind) :
    ((hits map).of kind).covered ≤ ((hits map).of kind).total := by
  rw [of_hits]
  refine List.sum_le_sum fun h hh => ?_
  obtain ⟨m, -, hfile⟩ := List.mem_filterMap.1 hh
  exact FileHits.covered_le_total hfile kind

/-- A map that shows no coverage has no files, and counts nothing. -/
theorem counted_eq (map : Json) (kind : CoverageKind) : ∃ percent, counted map kind =
    ⟨UInt64.ofNat ((hits map).of kind).total, UInt64.ofNat ((hits map).of kind).covered,
      percent⟩ := by
  unfold counted ofMap?
  by_cases hfiles : files map = []
  · have hnone : (hits map).of kind = ⟨0, 0⟩ := by rw [of_hits, hfiles]; rfl
    rw [if_pos (by rw [hfiles]; rfl), hnone]
    cases kind <;> exact ⟨0, rfl⟩
  · rw [if_neg (by simpa using hfiles)]
    cases kind <;> exact ⟨_, rfl⟩

variable {map : Json} {kind : CoverageKind}

theorem toNat_counted (hfew : ((hits map).of kind).total < 2 ^ 64) :
    (counted map kind).total.toNat = ((hits map).of kind).total ∧
      (counted map kind).covered.toNat = ((hits map).of kind).covered := by
  obtain ⟨percent, hcounted⟩ := counted_eq map kind
  rw [hcounted]
  exact ⟨UInt64.toNat_ofNat_of_lt' hfew,
    UInt64.toNat_ofNat_of_lt' (Nat.lt_of_le_of_lt (covered_hits_le map kind) hfew)⟩

theorem ofMap?_eq_none_iff : ofMap? map = none ↔
    ∀ members, map = .obj members → ∀ m ∈ members, ¬ FileHits.IsFile m.2 := by
  have hfiles : ofMap? map = none ↔ files map = [] := by
    unfold ofMap?
    cases files map <;> simp
  rw [hfiles, files, List.filterMap_eq_nil_iff]
  simp only [FileHits.ofJson?_eq_none_iff]
  cases map with
  | obj members => simp [Json.members?]
  | _ => simp [Json.members?]

/-! ### The order of files -/

theorem files_obj (members : List (String × Json)) :
    files (.obj members) = members.filterMap fun m => FileHits.ofJson? m.2 :=
  rfl

/-- But for their order, the files of a map are known by what is found under each name. -/
theorem files_perm {a b : List (String × Json)} (ha : (a.map (·.1)).Nodup)
    (hb : (b.map (·.1)).Nodup)
    (h : ∀ name, (a.lookup name).bind FileHits.ofJson? = (b.lookup name).bind FileHits.ofJson?) :
    (files (.obj a)).Perm (files (.obj b)) := by
  have hnamed : ∀ members : List (String × Json), files (.obj members) =
      (members.filterMap fun m => (FileHits.ofJson? m.2).map (m.1, ·)).map (·.2) := by
    intro members
    rw [files_obj, List.map_filterMap]
    simp
  rw [hnamed, hnamed]
  refine List.Perm.map _ (Json.perm_of_lookup_eq ?_ ?_ fun name => ?_)
  · exact (Json.keys_filterMap_sublist (fun _ => FileHits.ofJson?) a).nodup ha
  · exact (Json.keys_filterMap_sublist (fun _ => FileHits.ofJson?) b).nodup hb
  · exact (Json.lookup_filterMap_snd (fun _ => FileHits.ofJson?) ha name).trans
      ((h name).trans (Json.lookup_filterMap_snd (fun _ => FileHits.ofJson?) hb name).symm)

theorem ofMap?_congr {a b : Json} (h : (files a).Perm (files b)) : ofMap? a = ofMap? b := by
  have hempty : (files a).isEmpty = (files b).isEmpty := by
    rw [Bool.eq_iff_iff, List.isEmpty_iff_length_eq_zero, List.isEmpty_iff_length_eq_zero,
      h.length_eq]
  have hhits : hits a = hits b := FileHits.ext_of fun kind => by
    rw [of_hits, of_hits, (h.map _).sum_eq, (h.map _).sum_eq]
  unfold ofMap?
  rw [hempty, hhits]

/-! ### Maps that are put together -/

/-- Whether a map is put together from others that have no file name in common. -/
structure Merges (whole : List (String × Json)) (parts : List (List (String × Json))) : Prop where
  nodup_parts : (parts.flatten.map (·.1)).Nodup
  nodup_whole : (whole.map (·.1)).Nodup
  lookup_eq : ∀ name, whole.lookup name = parts.flatten.lookup name

theorem Merges.of_hits {whole : List (String × Json)} {parts : List (List (String × Json))}
    (h : Merges whole parts) (kind : CoverageKind) :
    (hits (.obj whole)).of kind =
      ⟨(parts.map fun part => ((hits (.obj part)).of kind).total).sum,
        (parts.map fun part => ((hits (.obj part)).of kind).covered).sum⟩ := by
  have hperm : (files (.obj whole)).Perm (parts.map fun part => files (.obj part)).flatten := by
    have hflatten : files (.obj parts.flatten) =
        (parts.map fun part => files (.obj part)).flatten := by
      simp only [files_obj, List.filterMap_flatten]
    rw [← hflatten]
    exact files_perm h.nodup_whole h.nodup_parts fun name => by rw [h.lookup_eq]
  rw [Coverage.of_hits, (hperm.map _).sum_eq, (hperm.map _).sum_eq, List.map_flatten,
    List.map_flatten, List.sum_flatten, List.sum_flatten]
  simp only [Coverage.of_hits, List.map_map, Function.comp_def]

theorem lines_hits (members : List (String × Json)) :
    (hits (.obj members)).of .lines =
      ⟨(members.map fun m => (FileHits.startedLines m.2).ncard).sum,
        (members.map fun m => (FileHits.ranLines m.2).ncard).sum⟩ := by
  rw [Coverage.of_hits, files_obj]
  induction members with
  | nil => rfl
  | cons m members ih =>
    rw [List.filterMap_cons, List.map_cons, List.sum_cons, List.map_cons, List.sum_cons]
    cases hfile : FileHits.ofJson? m.2 with
    | none =>
      have hstarted : FileHits.startedLines m.2 = ∅ :=
        FileHits.startedLines_eq_empty (FileHits.ofJson?_eq_none_iff.1 hfile)
      have hran : FileHits.ranLines m.2 = ∅ :=
        Set.subset_eq_empty (FileHits.ranLines_subset m.2) hstarted
      simpa [hstarted, hran] using ih
    | some h =>
      have hlines : h.of .lines = _ := FileHits.lines_eq_of_ofJson? hfile
      simp only [Hits.mk.injEq] at ih
      simp only [List.map_cons, List.sum_cons, hlines, ih]

/-- Coverage is a sum over files. A map shows none exactly if no entry is a file, and never more
things that ran than there are. A map that is put together from others, with no file name in
common, counts of each kind what they count together; a map that shows no coverage counts nothing.
The order of files changes nothing at all. The lines of a map are those of its files, each line
once, and a line is covered if a statement that starts on it ran. Counts are words, so this holds as
long as the counts of a map are below `2 ^ 64`. -/
theorem counted_adds_up :
    (∀ map, ofMap? map = none ↔
      ∀ members, map = .obj members → ∀ m ∈ members, ¬ FileHits.IsFile m.2) ∧
    (∀ map kind, ((hits map).of kind).covered ≤ ((hits map).of kind).total ∧
      (((hits map).of kind).total < 2 ^ 64 →
        (counted map kind).covered ≤ (counted map kind).total)) ∧
    (∀ whole parts kind, Merges whole parts → ((hits (.obj whole)).of kind).total < 2 ^ 64 →
      (counted (.obj whole) kind).total.toNat =
          (parts.map fun part => (counted (.obj part) kind).total.toNat).sum ∧
        (counted (.obj whole) kind).covered.toNat =
          (parts.map fun part => (counted (.obj part) kind).covered.toNat).sum) ∧
    (∀ members members', List.Perm members members' →
      ofMap? (.obj members) = ofMap? (.obj members')) ∧
    ∀ members, ((hits (.obj members)).of .lines).total < 2 ^ 64 →
      (counted (.obj members) .lines).total.toNat =
          (members.map fun m => (FileHits.startedLines m.2).ncard).sum ∧
        (counted (.obj members) .lines).covered.toNat =
          (members.map fun m => (FileHits.ranLines m.2).ncard).sum := by
  refine ⟨fun map => ofMap?_eq_none_iff, ?_, ?_, ?_, ?_⟩
  · intro map kind
    refine ⟨covered_hits_le map kind, fun hfew => ?_⟩
    obtain ⟨htotal, hcovered⟩ := toNat_counted hfew
    rw [UInt64.le_iff_toNat_le, htotal, hcovered]
    exact covered_hits_le map kind
  · intro whole parts kind hmerges hfew
    have hsum := hmerges.of_hits kind
    -- A part counts no more than the whole, so its counts are words as well.
    have hpart : ∀ part ∈ parts,
        (counted (.obj part) kind).total.toNat = ((hits (.obj part)).of kind).total ∧
          (counted (.obj part) kind).covered.toNat = ((hits (.obj part)).of kind).covered := by
      intro part hpart
      refine toNat_counted (Nat.lt_of_le_of_lt ?_ hfew)
      rw [hsum]
      exact List.le_sum_of_mem (List.mem_map_of_mem hpart)
    rw [(toNat_counted hfew).1, (toNat_counted hfew).2, hsum]
    constructor
    · exact congrArg List.sum (List.map_congr_left fun part h => (hpart part h).1.symm)
    · exact congrArg List.sum (List.map_congr_left fun part h => (hpart part h).2.symm)
  · intro members members' hperm
    exact ofMap?_congr (hperm.filterMap _)
  · intro members hfew
    rw [(toNat_counted hfew).1, (toNat_counted hfew).2, lines_hits]
    exact ⟨rfl, rfl⟩

/-- The place of a statement that starts on a line. -/
def statementAt (line : Nat) : Json :=
  .obj [("start", .obj [("line", .ofNat line)])]

/-- A file with three statements, of which two start on one line and one of these has run. -/
def threeStatements : Json :=
  .obj [("s", .obj [("0", .ofNat 1), ("1", .ofNat 0), ("2", .ofNat 3)]),
    ("statementMap", .obj [("0", statementAt 1), ("1", statementAt 2), ("2", statementAt 2)])]

/-- A file in its wrapping, whose only statement has not run. -/
def idleFile : Json :=
  .obj [("data", .obj [("s", .obj [("0", .ofNat 0)])])]

/-- A map of two files and an entry that is none. -/
def mixedMap : List (String × Json) :=
  [("a.js", idleFile), ("b.js", threeStatements), ("notes", .null)]

/-- The four statements of the two files are those of a map of either, and two lines are covered. -/
theorem counted_adds_up_mixedMap :
    Merges mixedMap [[("b.js", threeStatements)], [("notes", .null), ("a.js", idleFile)]] ∧
      ((hits (.obj mixedMap)).of .statements).total < 2 ^ 64 ∧
      (counted (.obj mixedMap) .statements).covered ≤ (counted (.obj mixedMap) .statements).total ∧
      (counted (.obj mixedMap) .statements).total.toNat = 3 + 1 ∧
      List.Perm mixedMap mixedMap.reverse ∧
      ofMap? (.obj mixedMap) = ofMap? (.obj mixedMap.reverse) ∧
      ((hits (.obj mixedMap)).of .lines).total < 2 ^ 64 ∧
      (mixedMap.map fun m => (FileHits.ranLines m.2).ncard).sum = 2 := by
  have hlookup : ∀ name, mixedMap.lookup name =
      [("b.js", threeStatements), ("notes", .null), ("a.js", idleFile)].lookup name := by
    intro name
    by_cases ha : name = "a.js"
    · subst ha; rfl
    by_cases hb : name = "b.js"
    · subst hb; rfl
    by_cases hn : name = "notes"
    · subst hn; rfl
    simp [mixedMap, List.lookup_cons, beq_eq_false_iff_ne.2 ha, beq_eq_false_iff_ne.2 hb,
      beq_eq_false_iff_ne.2 hn]
  have hmerges : Merges mixedMap
      [[("b.js", threeStatements)], [("notes", .null), ("a.js", idleFile)]] :=
    ⟨by decide, by decide, hlookup⟩
  have hstatements : ((hits (.obj mixedMap)).of .statements).total < 2 ^ 64 := by decide
  have hlines : ((hits (.obj mixedMap)).of .lines).total < 2 ^ 64 := by decide
  have hperm : List.Perm mixedMap mixedMap.reverse := (List.reverse_perm mixedMap).symm
  obtain ⟨-, hle, hsum, horder, hran⟩ := counted_adds_up
  refine ⟨hmerges, hstatements, (hle _ _).2 hstatements, ?_, hperm, horder _ _ hperm, hlines, ?_⟩
  · rw [(hsum _ _ .statements hmerges hstatements).1]
    decide
  · rw [← (hran mixedMap hlines).2]
    decide

/-! ### Entries that make no difference -/

/-- How the entries under one name may differ between two maps that show the same: an entry without
a key `data` is wrapped in an object that has it there, and what is no file may change, come or
go. -/
inductive SameEntry : (entry entry' : Option Json) → Prop
  | kept (entry : Option Json) : SameEntry entry entry
  | wrapped {e : Json} (hplain : e.get? "data" = none) :
      SameEntry (some e) (some (.obj [("data", e)]))
  | passedOver {entry entry' : Option Json} (h : ∀ e ∈ entry, ¬ FileHits.IsFile e)
      (h' : ∀ e ∈ entry', ¬ FileHits.IsFile e) : SameEntry entry entry'

theorem SameEntry.bind_ofJson?_eq {entry entry' : Option Json} (h : SameEntry entry entry') :
    entry.bind FileHits.ofJson? = entry'.bind FileHits.ofJson? := by
  cases h with
  | kept => rfl
  | @wrapped e hplain =>
    have hentry : FileHits.unwrapped e = e := by rw [FileHits.unwrapped, hplain]; rfl
    have hwrapped : FileHits.unwrapped (.obj [("data", e)]) = e := rfl
    show FileHits.ofJson? e = FileHits.ofJson? (.obj [("data", e)])
    rw [FileHits.ofJson?_eq, FileHits.ofJson?_eq, hentry, hwrapped]
  | passedOver h h' =>
    have hnone : ∀ o : Option Json, (∀ e ∈ o, ¬ FileHits.IsFile e) →
        o.bind FileHits.ofJson? = none := fun o ho =>
      Option.bind_eq_none_iff.2 fun e he => FileHits.ofJson?_eq_none_iff.2 (ho e he)
    rw [hnone entry h, hnone entry' h']

/-- Wrapping any entries that have no key `data`, and adding or removing any that are no files,
leaves the coverage of a map as it was, and also whether it has any. -/
theorem ofMap?_rewrapped {plain rewrapped : List (String × Json)}
    (hplain : (plain.map (·.1)).Nodup) (hrewrapped : (rewrapped.map (·.1)).Nodup)
    (hentries : ∀ name, SameEntry (plain.lookup name) (rewrapped.lookup name)) :
    ofMap? (.obj rewrapped) = ofMap? (.obj plain) :=
  (ofMap?_congr (files_perm hplain hrewrapped fun name => (hentries name).bind_ofJson?_eq)).symm

/-- The same file in its wrapping, among other entries that are no files. -/
def rewrappedMap : List (String × Json) :=
  [("b.js", .obj [("data", threeStatements)]), ("c.txt", .obj [("data", .ofNat 5)])]

theorem ofMap?_rewrapped_rewrappedMap :
    (∀ name, SameEntry ([("b.js", threeStatements), ("notes", .null)].lookup name)
        (rewrappedMap.lookup name)) ∧
      ofMap? (.obj rewrappedMap) = ofMap? (.obj [("b.js", threeStatements), ("notes", .null)]) ∧
      (ofMap? (.obj rewrappedMap)).isSome = true := by
  have hnotes : ¬ FileHits.IsFile .null := FileHits.ofJson?_eq_none_iff.1 rfl
  have htext : ¬ FileHits.IsFile (.obj [("data", .ofNat 5)]) :=
    FileHits.ofJson?_eq_none_iff.1 rfl
  have hentries : ∀ name, SameEntry ([("b.js", threeStatements), ("notes", .null)].lookup name)
      (rewrappedMap.lookup name) := by
    intro name
    by_cases hb : name = "b.js"
    · subst hb
      exact .wrapped rfl
    · have hne : (name == "b.js") = false := beq_eq_false_iff_ne.2 hb
      refine .passedOver ?_ ?_
      · by_cases hn : name = "notes"
        · simpa [List.lookup_cons, hne, hn] using hnotes
        · simp [List.lookup_cons, hne, beq_eq_false_iff_ne.2 hn]
      · by_cases hc : name = "c.txt"
        · simpa [rewrappedMap, List.lookup_cons, hne, hc] using htext
        · simp [rewrappedMap, List.lookup_cons, hne, beq_eq_false_iff_ne.2 hc]
  exact ⟨hentries, ofMap?_rewrapped (by decide) (by decide) hentries, by decide⟩

end Coverage

end TestReport
