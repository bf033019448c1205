import TestReport.CommandLine.Run

/-!
# What inputs stand for

Reading the inputs of a run gives all their outputs, in order, or fails. It fails exactly when one
of the inputs is in error (`InputError`), wherever that input stands: neither the files before it
nor those behind it count (`sources_allOrNothing`).

The outputs are said without errors (`outputs`): an input has those of its files, and `-` has the
standard input, of which the next `-` finds nothing left. So the outputs of two lists of inputs
are those of the one and then of the other, unless both read the standard input
(`outputs_append_of_disjoint`). The disk is a value here.
-/

namespace TestReport.CommandLine

open Glob (PathPattern)

variable {disk : Disk Id} {stdin : Option String}

/-! ## Errors -/

/-- The files that an input stands for: the file itself, or else those that its pattern has. -/
def filesMatching (disk : Disk Id) (input : String) : List String :=
  if (disk.isFile input).run then [input]
  else
    match PathPattern.ofText? input with
    | none => []
    | some pattern => (pattern.paths disk).run.filter fun path => (disk.isFile path).run

/-- Why an input cannot be used. -/
inductive InputError (disk : Disk Id) (stdin : Option String) : String → Prop
  /-- The standard input cannot be read, or is not UTF-8. -/
  | standardInput (h : stdin = none) : InputError disk stdin "-"
  | malformedPattern {input : String} (hinput : input ≠ "-")
      (hfile : (disk.isFile input).run = false) (h : PathPattern.ofText? input = none) :
      InputError disk stdin input
  | noMatch {input : String} {pattern : PathPattern} (hinput : input ≠ "-")
      (hfile : (disk.isFile input).run = false)
      (hpattern : PathPattern.ofText? input = some pattern)
      (h : ∀ path ∈ (pattern.paths disk).run, (disk.isFile path).run = false) :
      InputError disk stdin input
  | unreadable {input path : String} (hinput : input ≠ "-")
      (hpath : path ∈ filesMatching disk input) (h : (disk.bytes? path).run = none) :
      InputError disk stdin input
  | notText {input path : String} {bytes : ByteArray} (hinput : input ≠ "-")
      (hpath : path ∈ filesMatching disk input) (hbytes : (disk.bytes? path).run = some bytes)
      (h : String.fromUTF8? bytes = none) : InputError disk stdin input

theorem filesMatching_eq_nil_iff {input : String} :
    filesMatching disk input = [] ↔
      (disk.isFile input).run = false ∧
        ∀ pattern, PathPattern.ofText? input = some pattern →
          ∀ path ∈ (pattern.paths disk).run, (disk.isFile path).run = false := by
  unfold filesMatching
  cases hfile : (disk.isFile input).run with
  | true => simp
  | false => cases hpattern : PathPattern.ofText? input <;> simp

theorem run_text?_eq_none_iff {path : String} :
    (disk.text? path).run = none ↔
      (disk.bytes? path).run = none ∨
        ∃ bytes, (disk.bytes? path).run = some bytes ∧ String.fromUTF8? bytes = none := by
  have htext : (disk.text? path).run = (disk.bytes? path).run.bind String.fromUTF8? := rfl
  rw [htext]
  cases (disk.bytes? path).run <;> simp

/-- An input is in error when it is the standard input and that cannot be read, or when it has no
file, or one without a text. -/
theorem inputError_iff {input : String} :
    InputError disk stdin input ↔
      if input = "-" then stdin = none
      else filesMatching disk input = [] ∨
        ∃ path ∈ filesMatching disk input, (disk.text? path).run = none := by
  constructor
  · intro h
    cases h with
    | standardInput h => exact h
    | malformedPattern hinput hfile h =>
      rw [if_neg hinput, filesMatching_eq_nil_iff, h]
      exact .inl ⟨hfile, nofun⟩
    | noMatch hinput hfile hpattern h =>
      rw [if_neg hinput, filesMatching_eq_nil_iff, hpattern]
      exact .inl ⟨hfile, fun _ heq => Option.some.inj heq ▸ h⟩
    | unreadable hinput hpath h =>
      rw [if_neg hinput]
      exact .inr ⟨_, hpath, run_text?_eq_none_iff.2 (.inl h)⟩
    | notText hinput hpath hbytes h =>
      rw [if_neg hinput]
      exact .inr ⟨_, hpath, run_text?_eq_none_iff.2 (.inr ⟨_, hbytes, h⟩)⟩
  · intro h
    split at h
    next hinput => exact hinput ▸ .standardInput h
    next hinput =>
      rcases h with h | ⟨path, hpath, h⟩
      · obtain ⟨hfile, hnone⟩ := filesMatching_eq_nil_iff.1 h
        cases hpattern : PathPattern.ofText? input with
        | none => exact .malformedPattern hinput hfile hpattern
        | some pattern => exact .noMatch hinput hfile hpattern (hnone pattern hpattern)
      · rcases run_text?_eq_none_iff.1 h with h | ⟨bytes, hbytes, h⟩
        · exact .unreadable hinput hpath h
        · exact .notText hinput hpath hbytes h

/-- What is left of the standard input for the inputs behind one matters to none of them but `-`,
and that is in error no more. -/
theorem inputError_behind {first input : String} (hfirst : ¬InputError disk stdin first) :
    InputError disk (if first = "-" then some "" else stdin) input ↔
      InputError disk stdin input := by
  rw [inputError_iff, inputError_iff]
  rw [inputError_iff] at hfirst
  by_cases hdash : first = "-"
  · rw [if_pos hdash] at hfirst ⊢
    split <;> simp [hfirst]
  · rw [if_neg hdash]

/-! ## Outputs -/

/-- The text of a file that can be read. -/
def fileText (disk : Disk Id) (path : String) : String :=
  (disk.text? path).run.getD ""

/-- The outputs of one input. -/
def outputsOf (disk : Disk Id) (stdin : Option String) (input : String) : List Source :=
  if input = "-" then [⟨"<stdin>", stdin.getD ""⟩]
  else (filesMatching disk input).map fun path => ⟨path, fileText disk path⟩

/-- The outputs of inputs, in order. The first `-` leaves nothing of the standard input. -/
def outputs (disk : Disk Id) : Option String → List String → List Source
  | _, [] => []
  | stdin, input :: rest =>
    outputsOf disk stdin input ++ outputs disk (if input = "-" then some "" else stdin) rest

theorem outputs_congr {inputs : List String} (h : "-" ∉ inputs) (stdin other : Option String) :
    outputs disk stdin inputs = outputs disk other inputs := by
  induction inputs with
  | nil => rfl
  | cons input inputs ih =>
    have hne : input ≠ "-" := fun heq => h (heq ▸ List.mem_cons_self)
    rw [outputs, outputs, outputsOf, outputsOf, if_neg hne, if_neg hne, if_neg hne, if_neg hne,
      ih fun hinputs => h (List.mem_cons_of_mem _ hinputs)]

theorem outputs_append (inputs others : List String) :
    outputs disk stdin (inputs ++ others) =
      outputs disk stdin inputs ++
        outputs disk (if "-" ∈ inputs then some "" else stdin) others := by
  induction inputs generalizing stdin with
  | nil => rfl
  | cons input inputs ih =>
    rw [List.cons_append, outputs, outputs, ih, List.append_assoc]
    congr 3
    by_cases hinput : input = "-"
    · simp [hinput]
    · simp [hinput, Ne.symm hinput]

/-- Inputs that do not both read the standard input have their outputs one after the other. -/
theorem outputs_append_of_disjoint {inputs others : List String}
    (h : ¬("-" ∈ inputs ∧ "-" ∈ others)) :
    outputs disk stdin (inputs ++ others) =
      outputs disk stdin inputs ++ outputs disk stdin others := by
  rw [outputs_append]
  by_cases hothers : "-" ∈ others
  · rw [if_neg fun hinputs => h ⟨hinputs, hothers⟩]
  · rw [outputs_congr hothers]

/-! ## Reading -/

/-- A result is an error if something is wrong, and a given value otherwise. -/
structure AllOrNothing {α : Type} (result : Except RunError α) (wrong : Prop) (value : α) :
    Prop where
  nothing : wrong → ∃ e, result = .error e
  all : ¬wrong → result = .ok value

theorem filterAuxM_id {α : Type} (p : α → Id Bool) (l acc : List α) :
    (l.filterAuxM p acc).run = (l.filter fun a => (p a).run).reverse ++ acc := by
  induction l generalizing acc with
  | nil => rfl
  | cons a l ih =>
    have hstep : ((a :: l).filterAuxM p acc).run =
        (l.filterAuxM p (cond (p a).run (a :: acc) acc)).run := rfl
    rw [hstep, ih]
    cases h : (p a).run <;> simp [h]

theorem filterM_id {α : Type} (p : α → Id Bool) (l : List α) :
    (l.filterM p).run = l.filter fun a => (p a).run := by
  have hreverse : (l.filterM p).run = (l.filterAuxM p []).run.reverse := rfl
  rw [hreverse, filterAuxM_id, List.append_nil, List.reverse_reverse]

theorem run_filesOf (disk : Disk Id) (input : String) :
    (filesOf disk input).run =
      if (disk.isFile input).run then .ok [input]
      else
        match PathPattern.ofText? input with
        | none => .error (.malformedPattern input)
        | some pattern =>
          match (pattern.paths disk).run.filter fun path => (disk.isFile path).run with
          | [] => .error (.noMatch input)
          | paths => .ok paths := by
  have hfilter : ∀ pattern : PathPattern,
      (pattern.paths disk).run.filter (fun path => (disk.isFile path).run) =
        ((pattern.paths disk).run.filterM disk.isFile).run := fun pattern => (filterM_id _ _).symm
  simp only [hfilter]
  rfl

theorem filesOf_allOrNothing (disk : Disk Id) (input : String) :
    AllOrNothing (filesOf disk input).run (filesMatching disk input = [])
      (filesMatching disk input) := by
  rw [run_filesOf]
  unfold filesMatching
  by_cases hfile : (disk.isFile input).run = true
  · rw [if_pos hfile, if_pos hfile]
    exact ⟨nofun, fun _ => rfl⟩
  rw [if_neg hfile, if_neg hfile]
  cases PathPattern.ofText? input with
  | none => exact ⟨fun _ => ⟨_, rfl⟩, fun h => absurd rfl h⟩
  | some pattern =>
    dsimp only
    cases (pattern.paths disk).run.filter fun path => (disk.isFile path).run with
    | nil => exact ⟨fun _ => ⟨_, rfl⟩, fun h => absurd rfl h⟩
    | cons path paths => exact ⟨nofun, fun _ => rfl⟩

theorem run_readFiles_cons (disk : Disk Id) (path : String) (rest : List String) :
    (readFiles disk (path :: rest)).run =
      (disk.text? path).run.elim (.error (.unreadableInput path)) fun text =>
        (readFiles disk rest).run.map (⟨path, text⟩ :: ·) := by
  rw [readFiles, Id.run_bind]
  cases (disk.text? path).run <;> rfl

theorem readFiles_allOrNothing (disk : Disk Id) (paths : List String) :
    AllOrNothing (readFiles disk paths).run (∃ path ∈ paths, (disk.text? path).run = none)
      (paths.map fun path => ⟨path, fileText disk path⟩) := by
  induction paths with
  | nil => exact ⟨nofun, fun _ => rfl⟩
  | cons path paths ih =>
    rw [run_readFiles_cons]
    cases htext : (disk.text? path).run with
    | none => exact ⟨fun _ => ⟨_, rfl⟩, fun h => absurd ⟨path, List.mem_cons_self, htext⟩ h⟩
    | some text =>
      constructor
      · rintro ⟨other, hother, hnone⟩
        have hmem : other ∈ paths := (List.mem_cons.1 hother).resolve_left fun heq => by
          rw [heq, htext] at hnone
          cases hnone
        obtain ⟨e, he⟩ := ih.nothing ⟨other, hmem, hnone⟩
        exact ⟨e, by rw [he]; rfl⟩
      · intro h
        have hrest := ih.all fun ⟨other, hother, hnone⟩ =>
          h ⟨other, List.mem_cons_of_mem _ hother, hnone⟩
        rw [hrest, List.map_cons, fileText, htext]
        rfl

theorem run_readInput (disk : Disk Id) (stdin : Option String) (input : String) :
    (readInput disk stdin input).run =
      if input = "-" then
        stdin.elim (.error (.unreadableInput "<stdin>")) fun text => .ok [⟨"<stdin>", text⟩]
      else (filesOf disk input).run.bind fun paths => (readFiles disk paths).run := by
  unfold readInput
  split
  · cases stdin <;> rfl
  · rw [Id.run_bind]
    cases (filesOf disk input).run <;> rfl

theorem readInput_allOrNothing (disk : Disk Id) (stdin : Option String) (input : String) :
    AllOrNothing (readInput disk stdin input).run (InputError disk stdin input)
      (outputsOf disk stdin input) := by
  rw [inputError_iff, run_readInput, outputsOf]
  by_cases hinput : input = "-"
  · rw [if_pos hinput, if_pos hinput, if_pos hinput]
    cases stdin with
    | none => exact ⟨fun _ => ⟨_, rfl⟩, fun h => absurd rfl h⟩
    | some text => exact ⟨nofun, fun _ => rfl⟩
  · rw [if_neg hinput, if_neg hinput, if_neg hinput]
    have hfiles := filesOf_allOrNothing disk input
    have hpaths := readFiles_allOrNothing disk (filesMatching disk input)
    constructor
    · intro h
      by_cases hnil : filesMatching disk input = []
      · obtain ⟨e, he⟩ := hfiles.nothing hnil
        exact ⟨e, by rw [he]; rfl⟩
      · rw [hfiles.all hnil]
        exact hpaths.nothing (h.resolve_left hnil)
    · intro h
      obtain ⟨hnil, htexts⟩ := not_or.1 h
      rw [hfiles.all hnil]
      exact hpaths.all htexts

theorem run_sources_cons (disk : Disk Id) (stdin : Option String) (first : String)
    (rest : List String) :
    (sources disk stdin (first :: rest)).run =
      (readInput disk stdin first).run.bind fun outputs =>
        (sources disk (if first = "-" then some "" else stdin) rest).run.map (outputs ++ ·) := by
  rw [sources, Id.run_bind]
  cases (readInput disk stdin first).run <;> rfl

/-- Reading inputs fails exactly when one of them is in error, wherever it stands. -/
theorem sources_allOrNothing (disk : Disk Id) (stdin : Option String) (inputs : List String) :
    AllOrNothing (sources disk stdin inputs).run (∃ input ∈ inputs, InputError disk stdin input)
      (outputs disk stdin inputs) := by
  induction inputs generalizing stdin with
  | nil => exact ⟨nofun, fun _ => rfl⟩
  | cons first rest ih =>
    rw [run_sources_cons]
    have hread := readInput_allOrNothing disk stdin first
    by_cases hfirst : InputError disk stdin first
    · obtain ⟨e, he⟩ := hread.nothing hfirst
      rw [he]
      exact ⟨fun _ => ⟨e, rfl⟩, fun h => absurd ⟨first, List.mem_cons_self, hfirst⟩ h⟩
    · rw [hread.all hfirst]
      specialize ih (if first = "-" then some "" else stdin)
      constructor
      · rintro ⟨input, hinput, herror⟩
        have hmem : input ∈ rest := (List.mem_cons.1 hinput).resolve_left fun heq =>
          hfirst (heq ▸ herror)
        obtain ⟨e, he⟩ := ih.nothing ⟨input, hmem, (inputError_behind hfirst).2 herror⟩
        exact ⟨e, by dsimp only [Except.bind]; rw [he]; rfl⟩
      · intro h
        have hrest := ih.all fun ⟨input, hinput, herror⟩ =>
          h ⟨input, List.mem_cons_of_mem _ hinput, (inputError_behind hfirst).1 herror⟩
        dsimp only [Except.bind]
        rw [hrest]
        rfl

end TestReport.CommandLine
