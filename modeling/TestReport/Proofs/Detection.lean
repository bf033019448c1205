import TestReport.Proofs.Marks
import TestReport.Proofs.Unreadable

/-!
# Guessing the framework

Where no framework is declared, an output goes to the adapter that `Framework.sniff` guesses. The
guess looks for pieces of text and reads nothing, so it may send an output to an adapter that cannot
read it while another one could. This is settled by what the text *shows* (`Framework.shows`): the
first framework that shows is guessed, in the order Jest, Vitest, Mocha
(`Framework.sniff_eq_some_iff`).

`Registry.select_decodes_iff` says when this goes well. The output is read exactly when a framework
that can read it shows while none before it does. That a framework shows can be left out for Mocha,
whose search needs the very piece of text that the guess looks for, and for a Jest report that is
found by its counter (`Framework.shows_of_read?`). So a report is spoiled only by a marker of
another framework that comes before its own, or for want of its own.
-/

namespace TestReport

/-! ## What a text shows -/

namespace Framework

/-- Whether a text has what an output of a framework is known by. -/
def shows : Framework → List Char → Bool
  | jest, output => Text.occursIn "\"numTotalTests\"".toList output
  | vitest, output => (Text.lines output).any looksLikeEvent
  | mocha, output => Text.occursIn "\"stats\"".toList output

/-- Whether a framework is guessed rather than another one where both show. -/
def precedes : Framework → Framework → Bool
  | jest, vitest | jest, mocha | vitest, mocha => true
  | _, _ => false

theorem sniff_eq_shows (output : List Char) :
    sniff output =
      if jest.shows output then some jest
      else if vitest.shows output then some vitest
      else if mocha.shows output then some mocha
      else none :=
  rfl

/-- The guess is the first framework that shows. -/
theorem sniff_eq_some_iff {output : List Char} {f : Framework} :
    sniff output = some f ↔
      f.shows output = true ∧ ∀ g : Framework, g.precedes f = true → g.shows output = false := by
  have hall : ∀ p : Framework → Prop, (∀ g, p g) ↔ p jest ∧ p vitest ∧ p mocha := by
    intro p
    refine ⟨fun h => ⟨h _, h _, h _⟩, ?_⟩
    rintro ⟨hjest, hvitest, hmocha⟩ g
    cases g <;> assumption
  rw [sniff_eq_shows, hall]
  cases f <;> simp [precedes] <;> grind

/-- Where nothing is guessed nothing shows. -/
theorem shows_of_sniff_eq_none {output : List Char} (h : sniff output = none) (f : Framework) :
    f.shows output = false := by
  rw [sniff_eq_shows] at h
  cases f <;> grind

end Framework

/-! ## What can be read shows -/

/-- A report is found only in an output that has its marker in quotes. -/
theorem occursIn_of_findObject {output : List Char} {framework marker : String}
    {members : List (String × Json)} (h : findObject output framework marker = .ok members) :
    Text.occursIn ('"' :: marker.toList ++ ['"']) output = true := by
  unfold findObject at h
  split at h
  · cases h
  next n hlast =>
    obtain ⟨t, ht, blanks, after, -, rfl⟩ := exists_of_lastMark? hlast
    refine Text.occursIn_iff.2 (List.IsInfix.trans ?_ ht.isInfix)
    refine List.IsPrefix.isInfix ⟨blanks ++ ':' :: after, ?_⟩
    simp

/-- Whether the counters of a Jest report are found by the object that they are nested in. -/
def IsBridgeOutput (output : List Char) : Prop :=
  ∃ found lifted, findObject output "jest" "aggregated" = .ok found ∧
    liftMembers "aggregated" found = some lifted

theorem isBridgeOutput_or_of_locateReport {output : List Char} {members : List (String × Json)}
    (h : locateReport output = .ok members) :
    IsBridgeOutput output ∨ findObject output "jest" "numTotalTests" = .ok members := by
  unfold locateReport at h
  split at h
  next found hfound =>
    split at h
    next lifted hlifted => exact .inl ⟨found, lifted, hfound, hlifted⟩
    next => exact .inr h
  next => exact .inr h
  next => cases h

/-- An output that can be read as one of Mocha shows, and so does one of Jest unless it is found by
the object around its counters. -/
theorem Framework.shows_of_read? {f : Framework} {output : List Char} {written : WrittenReport}
    (h : f.read? output = .ok written) :
    f.shows output = true ∨ f = .vitest ∨ f = .jest ∧ IsBridgeOutput output := by
  cases f with
  | vitest => exact .inr (.inl rfl)
  | mocha =>
    obtain ⟨members, hfound, -⟩ := Json.bind_eq_ok.1 h
    exact .inl (occursIn_of_findObject hfound)
  | jest =>
    obtain ⟨members, hfound, -⟩ := Json.bind_eq_ok.1 h
    rcases isBridgeOutput_or_of_locateReport hfound with hbridge | hcounter
    · exact .inr (.inr ⟨rfl, hbridge⟩)
    · exact .inl (occursIn_of_findObject hcounter)

/-! ## The adapter that is selected -/

/-- An output is read by the adapter that is guessed for it exactly when some framework's adapter
decodes it that shows in it while no framework before it does. Mocha shows in all that it decodes,
and so does Jest but for outputs of the bridge form. -/
theorem Registry.select_decodes_iff (environment : Environment) (defaults : Options)
    (overrides : Overrides) (output : String) (now : Instant) :
    ∃ a, (builtin environment defaults).select output none = some a ∧
      ((a.parse overrides output now).metadata.parseError = false ↔
        ∃ f : Framework,
          (∃ r, Adapter.decode ⟨f, environment, defaults⟩ (overrides.apply defaults) output now =
            .ok r) ∧
          f.shows output.toList = true ∧
          ∀ g : Framework, g.precedes f = true → g.shows output.toList = false) ∧
      ∀ f : Framework,
        (∃ r, Adapter.decode ⟨f, environment, defaults⟩ (overrides.apply defaults) output now =
          .ok r) →
        f.shows output.toList = true ∨ f = .vitest ∨ f = .jest ∧ IsBridgeOutput output.toList := by
  have hdecodes : ∀ f : Framework,
      (∃ r, Adapter.decode ⟨f, environment, defaults⟩ (overrides.apply defaults) output now =
        .ok r) ↔ ∃ written, f.read? output.toList = .ok written :=
    fun _ => Framework.exists_decode_iff
  simp only [hdecodes]
  refine ⟨_, select_builtin environment defaults output none, ?_, ?_⟩
  · rw [Adapter.parseError_eq_false_iff]
    show (∃ written, (Framework.choose output none).read? output.toList = .ok written) ↔ _
    constructor
    · rintro ⟨written, hread⟩
      cases hsniff : Framework.sniff output.toList with
      | some f =>
        have hchoose : Framework.choose output none = f := by simp [Framework.choose, hsniff]
        exact ⟨f, ⟨written, hchoose ▸ hread⟩, Framework.sniff_eq_some_iff.1 hsniff⟩
      | none =>
        -- The output goes to Mocha, whose marker it does not have.
        have hchoose : Framework.choose output none = .mocha := by simp [Framework.choose, hsniff]
        rw [hchoose] at hread
        have hhidden : Framework.mocha.shows output.toList = false :=
          Framework.shows_of_sniff_eq_none hsniff .mocha
        rcases Framework.shows_of_read? hread with hshows | hother | ⟨hother, -⟩
        · exact absurd hshows (Bool.eq_false_iff.1 hhidden)
        · cases hother
        · cases hother
    · rintro ⟨f, hread, hfirst⟩
      have hchoose : Framework.choose output none = f := by
        simp [Framework.choose, Framework.sniff_eq_some_iff.2 hfirst]
      rwa [hchoose]
  · rintro f ⟨written, hread⟩
    exact Framework.shows_of_read? hread

/-! ## A report that is spoiled -/

/-- A Mocha report whose one test has the name of a counter of Jest. -/
def counterTitleOutput : String :=
  "\x7b\"stats\":\x7b\"tests\":1,\"passes\":1\x7d,\"passes\":[" ++
  "\x7b\"title\":\"numTotalTests\",\"fullTitle\":\"S numTotalTests\"\x7d]\x7d"

/-- The adapter of Mocha decodes the report, and the adapter that is guessed does not. -/
theorem Registry.select_spoils_counterTitleOutput :
    (∃ r, Adapter.decode ⟨.mocha, {}, {}⟩ {} counterTitleOutput .epoch = .ok r) ∧
      ∃ a, (builtin {} {}).select counterTitleOutput none = some a ∧
        (a.parse {} counterTitleOutput .epoch).metadata.parseError = true := by
  have hmocha : (Framework.mocha.read? counterTitleOutput.toList).toOption.any (fun _ => true) =
      true := by
    unfold counterTitleOutput
    simp only [String.toList_append]
    decide +kernel
  have hjest : (Framework.jest.read? counterTitleOutput.toList).isOk = false := by
    unfold counterTitleOutput
    simp only [String.toList_append]
    decide +kernel
  have hchoose : Framework.choose counterTitleOutput none = .jest := by
    unfold counterTitleOutput Framework.choose
    simp only [String.toList_append]
    decide +kernel
  obtain ⟨written, hread, -⟩ := Framework.exists_of_any_read? hmocha
  refine ⟨Framework.exists_decode_iff.2 ⟨written, hread⟩, ?_⟩
  refine ⟨_, select_builtin {} {} counterTitleOutput none, Adapter.parseError_iff_read?.2 ?_⟩
  show ∃ e, (Framework.choose counterTitleOutput none).read? counterTitleOutput.toList = .error e
  rw [hchoose]
  cases hfails : Framework.jest.read? counterTitleOutput.toList with
  | ok written => rw [hfails] at hjest; cases hjest
  | error e => exact ⟨e, rfl⟩

end TestReport
