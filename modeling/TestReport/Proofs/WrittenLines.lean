import TestReport.Text.Lines
import Mathlib.Data.List.DropRight

/-!
# Texts written line by line

A text that is written line by line may end each line with a line feed, or with a carriage return
and a line feed, and need not end its last line at all. `Spells lines text` says that a text is one
of the forms in which some lines can be written down. Every text is such a form of its own lines
(`spells_lines`).

Cutting a text does not quite give back the lines it was written from: a carriage return at the end
of a line goes to the line end, and an empty last line is lost. Neither can be seen once blanks are
trimmed and blank lines are left out (`Spells.trimmedLines_eq`), so that what is made of the trimmed
lines does not depend on how they were written down.
-/

namespace TestReport.Text

/-! ## Blanks around a text -/

section Blanks

variable {before after : List Char}

theorem trimStart_append_of_blank (h : ∀ c ∈ before, isBlank c = true) (text : List Char) :
    trimStart (before ++ text) = trimStart text :=
  List.dropWhile_append_of_pos h

theorem trimEnd_append_of_blank (h : ∀ c ∈ after, isBlank c = true) (text : List Char) :
    trimEnd (text ++ after) = trimEnd text := by
  have hreverse : ∀ c ∈ after.reverse, isBlank c = true := fun c hc => h c (List.mem_reverse.1 hc)
  unfold trimEnd
  rw [List.reverse_append, List.dropWhile_append_of_pos hreverse]

theorem trim_append_of_blank (h : ∀ c ∈ after, isBlank c = true) (text : List Char) :
    trim (text ++ after) = trim text := by
  unfold trim trimStart
  rw [List.dropWhile_append]
  split
  · next hempty =>
    -- Nothing but blanks stands there, before the end as well as at the end.
    have hafter : after.dropWhile isBlank = [] := by
      simpa [trimStart] using trimStart_append_of_blank h []
    rw [hafter, List.isEmpty_iff.1 hempty]
  · exact trimEnd_append_of_blank h _

end Blanks

/-- Whether a text is another one with blanks around it. -/
def IsPadded (core text : List Char) : Prop :=
  ∃ before after, (∀ c ∈ before, isBlank c = true) ∧ (∀ c ∈ after, isBlank c = true) ∧
    text = before ++ core ++ after

theorem IsPadded.trim_eq {core text : List Char} (h : IsPadded core text) :
    trim text = trim core := by
  obtain ⟨before, after, hbefore, hafter, rfl⟩ := h
  rw [trim_append_of_blank hafter]
  exact congrArg trimEnd (trimStart_append_of_blank hbefore core)

/-! ## What trimming leaves

`trimEnd` is `List.rdropWhile isBlank` by definition, so the lemmas on that function apply as they
are. -/

/-- A text is what trimming its end leaves, followed by its trailing blanks. -/
theorem exists_trimEnd_append_blank (s : List Char) :
    ∃ w : List Char, (∀ c ∈ w, isBlank c = true) ∧ trimEnd s ++ w = s :=
  ⟨s.rtakeWhile isBlank, fun _ hc => List.mem_rtakeWhile_imp hc,
    List.rdropWhile_append_rtakeWhile⟩

theorem isPadded_trim (s : List Char) : IsPadded (trim s) s := by
  obtain ⟨before, hbefore, hs⟩ := exists_blank_append_trimStart s
  obtain ⟨after, hafter, hstart⟩ := exists_trimEnd_append_blank (trimStart s)
  exact ⟨before, after, hbefore, hafter, by rw [trim, List.append_assoc, hstart, hs]⟩

theorem head_trim_not_blank (s : List Char) : ∀ c ∈ (trim s).head?, isBlank c = false := by
  intro c hc
  obtain ⟨rest, hrest⟩ := List.head?_eq_some_iff.1 hc
  obtain ⟨after, hafter⟩ : trim s <+: trimStart s := List.rdropWhile_prefix isBlank _
  rw [hrest, List.cons_append] at hafter
  exact head_trimStart hafter.symm

theorem last_trimEnd_not_blank (s : List Char) :
    ∀ c ∈ (trimEnd s).getLast?, isBlank c = false := by
  intro c hc
  obtain ⟨hne, rfl⟩ := List.mem_getLast?_eq_getLast hc
  exact Bool.eq_false_iff.2 (List.rdropWhile_last_not isBlank s hne)

theorem last_trim_not_blank (s : List Char) : ∀ c ∈ (trim s).getLast?, isBlank c = false :=
  last_trimEnd_not_blank (trimStart s)

theorem forall_isBlank_of_trim_eq_nil {s : List Char} (h : trim s = []) :
    ∀ c ∈ s, isBlank c = true := by
  obtain ⟨before, after, hbefore, hafter, hs⟩ := isPadded_trim s
  rw [h, List.append_nil] at hs
  intro c hc
  rw [hs] at hc
  exact (List.mem_append.1 hc).elim (hbefore c) (hafter c)

/-! ## Lines and line ends -/

/-- Whether a text is a written form of some lines. A line feed or a carriage return with a line
feed ends a line; the last line may also end with the text. -/
inductive Spells : List (List Char) → List Char → Prop
  | nil : Spells [] []
  | last {line : List Char} (h : '\n' ∉ line) : Spells [line] line
  | feed {line text : List Char} {lines : List (List Char)} (h : '\n' ∉ line)
      (rest : Spells lines text) : Spells (line :: lines) (line ++ '\n' :: text)
  | returnFeed {line text : List Char} {lines : List (List Char)} (h : '\n' ∉ line)
      (rest : Spells lines text) : Spells (line :: lines) (line ++ '\r' :: '\n' :: text)

theorem linesAfter_append_feed {line : List Char} (h : '\n' ∉ line) (pending text : List Char) :
    linesAfter pending (line ++ '\n' :: text) =
      (dropReturn (line.reverse ++ pending)).reverse :: lines text := by
  induction line generalizing pending with
  | nil => simp [linesAfter, lines]
  | cons c line ih =>
    obtain ⟨hc, hline⟩ := List.ne_and_not_mem_of_not_mem_cons h
    rw [List.cons_append, linesAfter, if_neg (Ne.symm hc), ih hline, List.reverse_cons,
      List.append_assoc, List.singleton_append]

theorem linesAfter_of_not_mem {line : List Char} (h : '\n' ∉ line) (pending : List Char) :
    linesAfter pending line = linesAfter (line.reverse ++ pending) [] := by
  induction line generalizing pending with
  | nil => rfl
  | cons c line ih =>
    obtain ⟨hc, hline⟩ := List.ne_and_not_mem_of_not_mem_cons h
    have hstep : linesAfter pending (c :: line) = linesAfter (c :: pending) line :=
      if_neg (Ne.symm hc)
    rw [hstep, ih hline, List.reverse_cons, List.append_assoc, List.singleton_append]

/-- A text is a written form of the lines into which it is cut. -/
theorem spells_lines (text : List Char) : Spells (lines text) text := by
  suffices ∀ pending : List Char, '\n' ∉ pending →
      Spells (linesAfter pending text) (pending.reverse ++ text) from
    this [] List.not_mem_nil
  induction text with
  | nil =>
    intro pending h
    cases pending with
    | nil => exact .nil
    | cons c pending =>
      rw [List.append_nil]
      exact .last fun hmem => h (List.mem_reverse.1 hmem)
  | cons c text ih =>
    intro pending h
    unfold linesAfter
    by_cases hc : c = '\n'
    · subst hc
      rw [if_pos rfl]
      have hrest : Spells (linesAfter [] text) text := ih [] List.not_mem_nil
      have hline : '\n' ∉ pending.reverse := fun hmem => h (List.mem_reverse.1 hmem)
      unfold dropReturn
      split
      · next line =>
        rw [List.reverse_cons, List.append_assoc]
        exact .returnFeed (fun hmem => h (List.mem_cons_of_mem _ (List.mem_reverse.1 hmem))) hrest
      · exact .feed hline hrest
    · rw [if_neg hc]
      have hpending : '\n' ∉ c :: pending := List.not_mem_cons_of_ne_of_not_mem (Ne.symm hc) h
      simpa using ih (c :: pending) hpending

/-! ## What can be seen of lines -/

/-- The lines that are not blank, trimmed. -/
def trimmedLines (lines : List (List Char)) : List (List Char) :=
  (lines.map trim).filter (!·.isEmpty)

theorem isBlank_return : ∀ c ∈ ['\r'], isBlank c = true :=
  List.forall_mem_singleton.2 (by decide)

theorem trim_dropReturn (line : List Char) :
    trim (dropReturn line.reverse).reverse = trim line := by
  unfold dropReturn
  split
  · next rest hrest =>
    have hline : line = rest.reverse ++ ['\r'] := by
      rw [← List.reverse_reverse line, hrest, List.reverse_cons]
    rw [hline, trim_append_of_blank isBlank_return]
  · rw [List.reverse_reverse]

theorem trimmedLines_cons_congr {line line' : List Char} (h : trim line = trim line')
    {rest rest' : List (List Char)} (hrest : trimmedLines rest = trimmedLines rest') :
    trimmedLines (line :: rest) = trimmedLines (line' :: rest') := by
  unfold trimmedLines at hrest ⊢
  rw [List.map_cons, List.map_cons, h, List.filter_cons, List.filter_cons, hrest]

/-- How lines are written down cannot be seen in their trimmed form. -/
theorem Spells.trimmedLines_eq {written : List (List Char)} {text : List Char}
    (h : Spells written text) : trimmedLines (lines text) = trimmedLines written := by
  induction h with
  | nil => rfl
  | @last line h =>
    rw [lines, linesAfter_of_not_mem h, List.append_nil, linesAfter]
    cases line with
    | nil => rfl
    | cons c line => simp
  | @feed line text written h _ ih =>
    rw [lines, linesAfter_append_feed h, List.append_nil]
    exact trimmedLines_cons_congr (trim_dropReturn line) ih
  | @returnFeed line text written h _ ih =>
    have hreturn : '\n' ∉ line ++ ['\r'] := by simpa using h
    rw [lines, List.append_cons, linesAfter_append_feed hreturn, List.append_nil]
    refine trimmedLines_cons_congr ?_ ih
    rw [trim_dropReturn, trim_append_of_blank isBlank_return]

end TestReport.Text
