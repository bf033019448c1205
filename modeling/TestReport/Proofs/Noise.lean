import TestReport.Proofs.Detection
import TestReport.Proofs.WrittenLines

/-!
# Noise in an event stream

A line that is no event is noise. Of a stream that holds an event, noise changes nothing: two
streams that differ in lines of noise, in the blanks around lines and in their line ends have the
same result (`VitestRun.decode_ignores_noise`).

The lines of a stream are taken as they were written down (`Text.Spells`), with the line ends that
each of them has. `SameEvents` says how the lines of two streams may differ, one line after the
other. What a stream decodes to is made of the events of its lines alone (`VitestRun.events_eq`),
and these are the same on both sides (`SameEvents.filterMap_lineEvent?`).

A stream of nothing but noise has no result, and there noise matters in one respect. A line that
starts with a brace and speaks of a type was meant as an event, and why the first such line is none
is the error of the whole stream (`MissingEvents`).
-/

namespace TestReport

open Text (trim trimmedLines Spells IsPadded)

/-! ## Lines and their events -/

/-- The event on a line, if there is one. -/
def lineEvent? (line : List Char) : Option VitestEvent :=
  (VitestEvent.ofLine? (trim line)).toOption

/-- Whether a line holds no event. -/
def IsNoise (line : List Char) : Prop :=
  ∃ reason, VitestEvent.ofLine? (trim line) = .error reason

theorem lineEvent?_eq_none_iff {line : List Char} : lineEvent? line = none ↔ IsNoise line := by
  unfold lineEvent? IsNoise
  cases VitestEvent.ofLine? (trim line) <;> simp [Except.toOption]

theorem filterMap_lineEvent?_eq_nil_iff {lines : List (List Char)} :
    lines.filterMap lineEvent? = [] ↔ ∀ line ∈ lines, IsNoise line := by
  simp only [List.filterMap_eq_nil_iff, lineEvent?_eq_none_iff]

theorem filterMap_lineEvent?_ne_nil_iff {lines : List (List Char)} :
    lines.filterMap lineEvent? ≠ [] ↔ ∃ line ∈ lines, ¬ IsNoise line := by
  rw [Ne, filterMap_lineEvent?_eq_nil_iff]
  simp

/-- Blank lines can be left in where nothing is made of them. -/
theorem filterMap_trimmedLines {α : Type} {f : List Char → Option α} (h : f [] = none)
    (lines : List (List Char)) :
    (trimmedLines lines).filterMap f = lines.filterMap fun line => f (trim line) := by
  unfold trimmedLines
  induction lines with
  | nil => rfl
  | cons line lines ih =>
    rw [List.map_cons, List.filter_cons, List.filterMap_cons, ← ih]
    cases hline : trim line with
    | nil => simp [h]
    | cons c rest => simp [List.filterMap_cons]

section Written

variable {lines : List (List Char)} {output : List Char}

theorem VitestRun.eventLines_eq (h : Spells lines output) :
    VitestRun.eventLines output = trimmedLines lines :=
  h.trimmedLines_eq

/-- The events of a stream are those of its lines, however they are written down. -/
theorem VitestRun.events_eq (h : Spells lines output) :
    VitestRun.events output = lines.filterMap lineEvent? := by
  unfold VitestRun.events
  rw [eventLines_eq h]
  exact filterMap_trimmedLines rfl lines

end Written

/-! ## Streams that differ in noise -/

/-- Whether two lists of lines hold the same events in the same order: line by line they are the
same text with blanks around it, and lines of noise may stand anywhere in either list. -/
inductive SameEvents : List (List Char) → List (List Char) → Prop
  | nil : SameEvents [] []
  | padded {core line line' : List Char} {lines lines' : List (List Char)}
      (h : IsPadded core line) (h' : IsPadded core line') (rest : SameEvents lines lines') :
      SameEvents (line :: lines) (line' :: lines')
  | dropped {line : List Char} {lines lines' : List (List Char)} (h : IsNoise line)
      (rest : SameEvents lines lines') : SameEvents (line :: lines) lines'
  | inserted {line : List Char} {lines lines' : List (List Char)} (h : IsNoise line)
      (rest : SameEvents lines lines') : SameEvents lines (line :: lines')

theorem SameEvents.filterMap_lineEvent? {lines lines' : List (List Char)}
    (h : SameEvents lines lines') :
    lines.filterMap lineEvent? = lines'.filterMap lineEvent? := by
  induction h with
  | nil => rfl
  | padded h h' _ ih =>
    rw [List.filterMap_cons, List.filterMap_cons, ih, lineEvent?, lineEvent?, h.trim_eq,
      h'.trim_eq]
  | dropped h _ ih =>
    rw [List.filterMap_cons, lineEvent?_eq_none_iff.2 h]
    exact ih
  | inserted h _ ih =>
    rw [List.filterMap_cons, lineEvent?_eq_none_iff.2 h]
    exact ih

/-! ## Streams without events -/

/-- Whether a line was meant as an event: it starts with a brace and speaks of a type. -/
def IsMeantAsEvent (line : List Char) : Prop :=
  line.head? = some '\x7b' ∧ "\"type\"".toList <:+: line

/-- Why lines that hold no event cannot be read: because of the first of them that was meant as an
event, or because there is no such line. -/
inductive MissingEvents (lines : List (List Char)) : ExtractError → Prop
  | broken {before after : List (List Char)} {line : List Char} {reason : Json.ReadError}
      (split : lines.map trim = before ++ line :: after)
      (first : ∀ earlier ∈ before, ¬ IsMeantAsEvent earlier) (meant : IsMeantAsEvent line)
      (fault : VitestEvent.ofLine? line = .error reason) :
      MissingEvents lines (.undecodable "vitest" reason)
  | silent (none : ∀ line ∈ lines, ¬ IsMeantAsEvent (trim line)) :
      MissingEvents lines (.noPayload "vitest" "type")

namespace VitestRun

theorem brokenEvent?_eq_some_iff {line : List Char} {reason : Json.ReadError} :
    brokenEvent? line = some reason ↔
      IsMeantAsEvent line ∧ VitestEvent.ofLine? line = .error reason := by
  unfold brokenEvent? IsMeantAsEvent
  cases VitestEvent.ofLine? line with
  | ok event => simp
  | error e => simp [Text.occursIn_iff]

theorem brokenEvent?_eq_none_iff {line : List Char} {reason : Json.ReadError}
    (h : VitestEvent.ofLine? line = .error reason) :
    brokenEvent? line = none ↔ ¬ IsMeantAsEvent line := by
  unfold brokenEvent? IsMeantAsEvent
  rw [h]
  simp [Text.occursIn_iff]

/-- The first broken event of a stream can be looked for among its lines, blank or not. -/
theorem findSome?_brokenEvent? (lines : List (List Char)) :
    (trimmedLines lines).findSome? brokenEvent? = (lines.map trim).findSome? brokenEvent? := by
  rw [← List.head?_filterMap, ← List.head?_filterMap, filterMap_trimmedLines rfl,
    List.filterMap_map]
  rfl

section Missing

variable {lines : List (List Char)}

theorem findSome?_brokenEvent?_eq_none_iff (h : ∀ line ∈ lines, IsNoise line) :
    (lines.map trim).findSome? brokenEvent? = none ↔
      ∀ line ∈ lines, ¬ IsMeantAsEvent (trim line) := by
  rw [List.findSome?_eq_none_iff, List.forall_mem_map]
  refine forall₂_congr fun line hline => ?_
  obtain ⟨reason, hreason⟩ := h line hline
  exact brokenEvent?_eq_none_iff hreason

theorem findSome?_brokenEvent?_eq_some_iff (h : ∀ line ∈ lines, IsNoise line)
    {reason : Json.ReadError} :
    (lines.map trim).findSome? brokenEvent? = some reason ↔
      ∃ before line after, lines.map trim = before ++ line :: after ∧
        (∀ earlier ∈ before, ¬ IsMeantAsEvent earlier) ∧
        IsMeantAsEvent line ∧ VitestEvent.ofLine? line = .error reason := by
  rw [List.findSome?_eq_some_iff]
  refine exists₃_congr fun before line after => and_congr_right fun hsplit => ?_
  rw [brokenEvent?_eq_some_iff, and_comm]
  refine and_congr_left fun _ => forall₂_congr fun earlier hearlier => ?_
  have hmem : earlier ∈ lines.map trim := hsplit ▸ List.mem_append_left _ hearlier
  obtain ⟨source, hsource, rfl⟩ := List.mem_map.1 hmem
  obtain ⟨reason, hreason⟩ := h source hsource
  exact brokenEvent?_eq_none_iff hreason

/-- What is said of lines of noise is what the search for a broken event finds. -/
theorem missingEvents_iff (h : ∀ line ∈ lines, IsNoise line) (e : ExtractError) :
    MissingEvents lines e ↔
      e = match (trimmedLines lines).findSome? brokenEvent? with
        | some reason => .undecodable "vitest" reason
        | none => .noPayload "vitest" "type" := by
  rw [findSome?_brokenEvent?]
  constructor
  · rintro (⟨hsplit, hfirst, hmeant, hfault⟩ | hnone)
    · rw [(findSome?_brokenEvent?_eq_some_iff h).2 ⟨_, _, _, hsplit, hfirst, hmeant, hfault⟩]
    · rw [(findSome?_brokenEvent?_eq_none_iff h).2 hnone]
  · rintro rfl
    cases hfind : (lines.map trim).findSome? brokenEvent? with
    | none => exact .silent ((findSome?_brokenEvent?_eq_none_iff h).1 hfind)
    | some reason =>
      obtain ⟨_, _, _, hsplit, hfirst, hmeant, hfault⟩ :=
        (findSome?_brokenEvent?_eq_some_iff h).1 hfind
      exact .broken hsplit hfirst hmeant hfault

theorem exists_missingEvents (h : ∀ line ∈ lines, IsNoise line) : ∃ e, MissingEvents lines e :=
  ⟨_, (missingEvents_iff h _).2 rfl⟩

end Missing

/-! ## What a stream decodes to -/

section Decode

variable {environment : Environment} {options : Options} {now : Instant} {output : String}
  {lines : List (List Char)}

/-- A stream with an event on one of its lines decodes to the run of all its events. -/
theorem decode_of_spells (h : Spells lines output.toList)
    (hevent : lines.filterMap lineEvent? ≠ []) :
    decode environment options output now =
      .ok (((lines.filterMap lineEvent?).foldl (apply options) {}).toReport environment now) := by
  unfold decode
  rw [events_eq h]
  cases hevents : lines.filterMap lineEvent? with
  | nil => exact absurd hevents hevent
  | cons event events => rfl

theorem decode_of_forall_isNoise (h : Spells lines output.toList)
    (hnoise : ∀ line ∈ lines, IsNoise line) (e : ExtractError) :
    decode environment options output now = .error e ↔ MissingEvents lines e := by
  unfold decode
  rw [events_eq h, eventLines_eq h, filterMap_lineEvent?_eq_nil_iff.2 hnoise,
    missingEvents_iff hnoise, eq_comm]
  cases (trimmedLines lines).findSome? brokenEvent? <;> simp

end Decode

/-- The result of a stream that holds an event is also that of every stream with the same events,
whatever noise either of them has, however their lines are padded and whichever way they end. A
stream fails exactly when no line of it holds an event, and then for the reason that its lines
give. -/
theorem decode_ignores_noise (environment : Environment) (options : Options) (now : Instant)
    (output : String) :
    (∀ (output' : String) lines lines', Spells lines output.toList →
      Spells lines' output'.toList → SameEvents lines lines' → (∃ line ∈ lines, ¬ IsNoise line) →
        ∃ r, decode environment options output now = .ok r ∧
          decode environment options output' now = .ok r) ∧
    ((∃ e, decode environment options output now = .error e) ↔
      ∀ line ∈ Text.lines output.toList, IsNoise line) ∧
    ∀ e, decode environment options output now = .error e ↔
      (∀ line ∈ Text.lines output.toList, IsNoise line) ∧
        MissingEvents (Text.lines output.toList) e := by
  have hlines := Text.spells_lines output.toList
  have herror : ∀ e, decode environment options output now = .error e ↔
      (∀ line ∈ Text.lines output.toList, IsNoise line) ∧
        MissingEvents (Text.lines output.toList) e := by
    intro e
    by_cases hnoise : ∀ line ∈ Text.lines output.toList, IsNoise line
    · rw [decode_of_forall_isNoise hlines hnoise]
      exact ⟨fun hmissing => ⟨hnoise, hmissing⟩, fun hboth => hboth.2⟩
    · have hne := mt filterMap_lineEvent?_eq_nil_iff.1 hnoise
      rw [decode_of_spells hlines hne]
      simp [hnoise]
  refine ⟨?_, ?_, herror⟩
  · intro output' lines lines' h h' hsame hevent
    have hne := filterMap_lineEvent?_ne_nil_iff.2 hevent
    have hevents := hsame.filterMap_lineEvent?
    refine ⟨_, decode_of_spells h hne, ?_⟩
    rw [decode_of_spells h' (hevents ▸ hne), hevents]
  · constructor
    · rintro ⟨e, he⟩
      exact ((herror e).1 he).1
    · intro hnoise
      obtain ⟨e, hmissing⟩ := exists_missingEvents hnoise
      exact ⟨e, (herror e).2 ⟨hnoise, hmissing⟩⟩

/-- A banner. -/
def bannerLine : List Char :=
  " RUN  v1.6.0".toList

/-- The event of a test that has passed. -/
def passedLine : List Char :=
  "\x7b\"type\":\"test-finished\",\"file\":\"a.ts\",\"name\":\"t\",\"state\":\"passed\"\x7d".toList

/-- The same with blanks before it. -/
def indentedLine : List Char :=
  '\t' :: ' ' :: passedLine

/-- A line that was meant as an event. -/
def brokenLine : List Char :=
  "\x7b\"type\":".toList

/-- The event with blanks before it among noise, with other line ends. -/
def noisyStream : String :=
  String.ofList (bannerLine ++ '\r' :: '\n' :: (indentedLine ++ '\r' :: '\n' :: brokenLine))

/-- The event alone. -/
def quietStream : String :=
  String.ofList (passedLine ++ '\n' :: [])

/-- The two streams have one result. -/
theorem decode_ignores_noise_noisyStream :
    ∃ r, decode {} {} noisyStream .epoch = .ok r ∧ decode {} {} quietStream .epoch = .ok r := by
  have hnoisy : Spells [bannerLine, indentedLine, brokenLine] noisyStream.toList := by
    rw [noisyStream, String.toList_ofList]
    exact .returnFeed (by decide) (.returnFeed (by decide) (.last (by decide)))
  have hquiet : Spells [passedLine] quietStream.toList := by
    rw [quietStream, String.toList_ofList]
    exact .feed (by decide) .nil
  have hbanner : IsNoise bannerLine :=
    lineEvent?_eq_none_iff.1 (Option.isNone_iff_eq_none.1 (by decide +kernel))
  have hbroken : IsNoise brokenLine :=
    lineEvent?_eq_none_iff.1 (Option.isNone_iff_eq_none.1 (by decide +kernel))
  have hevent : ¬ IsNoise indentedLine := by
    rw [← lineEvent?_eq_none_iff, ← Option.isNone_iff_eq_none]
    decide +kernel
  have hblanks : ∀ c ∈ ['\t', ' '], Text.isBlank c = true :=
    List.forall_mem_cons.2 ⟨by decide, List.forall_mem_singleton.2 (by decide)⟩
  have hindented : IsPadded passedLine indentedLine :=
    ⟨['\t', ' '], [], hblanks, List.forall_mem_nil _, (List.append_nil _).symm⟩
  have hplain : IsPadded passedLine passedLine :=
    ⟨[], [], List.forall_mem_nil _, List.forall_mem_nil _, (List.append_nil _).symm⟩
  have hsame : SameEvents [bannerLine, indentedLine, brokenLine] [passedLine] :=
    .dropped hbanner (.padded hindented hplain (.dropped hbroken .nil))
  exact (decode_ignores_noise {} {} .epoch noisyStream).1 quietStream _ _ hnoisy hquiet hsame
    ⟨indentedLine, by simp, hevent⟩

end VitestRun

end TestReport
