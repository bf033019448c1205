import TestReport.Text.Escape
import Mathlib.Data.List.Infix

/-!
# What is left of escape sequences

Escape sequences are removed in one pass from left to right. The escape character starts a sequence
and stands nowhere else in one, so sequences do not overlap, and whether an escape character starts
one is told by the text right behind it. Every complete sequence of a text is removed, and nothing
else is (`Stripped`).

What is left can be a sequence all the same. An escape character that starts none is kept, and when
sequences are removed behind it, characters come next to it that did not stand there before:
removing the inner sequence of `nestedReset` leaves an outer one. A text in which a sequence is cut
in this manner is *interrupted*. These texts are the only ones of which a sequence is left, and the
only ones of which a second pass would remove more (`stripEscapes_leaves_iff_isInterrupted`).

What a program writes for a terminal is not of this kind. It is put together of plain pieces and
complete sequences, its *chunks*, and of such a text the plain pieces are left, also where they look
like the continuation of a sequence before them (`stripEscapes_written`). These are just the texts
of which no escape character is left (`exists_chunks_iff`).
-/

namespace TestReport.Text

/-! ## Classes of characters -/

section Classes

variable {c : Char}

theorem isParameter_range (h : isParameter c = true) : 48 ≤ c.toNat ∧ c.toNat ≤ 63 := by
  simp only [isParameter, Char.isDigit, Bool.or_eq_true, Bool.and_eq_true, decide_eq_true_eq,
    beq_iff_eq, UInt32.le_iff_toNat_le] at h
  rcases h with (⟨hlow, hhigh⟩ | rfl) | rfl
  · exact ⟨hlow, Nat.le_trans hhigh (by decide)⟩
  · decide
  · decide

theorem isIntermediate_range (h : isIntermediate c = true) : 32 ≤ c.toNat ∧ c.toNat ≤ 47 := by
  simpa [isIntermediate, Char.le_def, UInt32.le_iff_toNat_le] using h

theorem isFinal_range (h : isFinal c = true) : 64 ≤ c.toNat ∧ c.toNat ≤ 126 := by
  simpa [isFinal, Char.le_def, UInt32.le_iff_toNat_le] using h

theorem not_isParameter_of_isIntermediate (h : isIntermediate c = true) :
    isParameter c = false := by
  refine Bool.eq_false_iff.2 fun hparameter => ?_
  have hlow := isParameter_range hparameter
  have hhigh := isIntermediate_range h
  omega

theorem not_isParameter_of_isFinal (h : isFinal c = true) : isParameter c = false := by
  refine Bool.eq_false_iff.2 fun hparameter => ?_
  have hlow := isParameter_range hparameter
  have hhigh := isFinal_range h
  omega

theorem not_isIntermediate_of_isFinal (h : isFinal c = true) : isIntermediate c = false := by
  refine Bool.eq_false_iff.2 fun hintermediate => ?_
  have hlow := isIntermediate_range hintermediate
  have hhigh := isFinal_range h
  omega

end Classes

/-! ## Sequences -/

/-- What follows the escape character in a complete sequence. -/
inductive IsBody : List Char → Prop
  | control {parameters intermediates : List Char} {final : Char}
      (hparameters : ∀ c ∈ parameters, isParameter c = true)
      (hintermediates : ∀ c ∈ intermediates, isIntermediate c = true)
      (hfinal : isFinal final = true) :
      IsBody ('[' :: (parameters ++ (intermediates ++ [final])))
  | short {c : Char} (h : isShortFinal c = true) : IsBody [c]

/-- The escape character stands at the start of a sequence only. -/
theorem IsBody.escape_not_mem {body : List Char} (h : IsBody body) : escape ∉ body := by
  cases h with
  | @control parameters intermediates final hparameters hintermediates hfinal =>
    intro hmem
    rcases List.mem_cons.1 hmem with heq | hmem
    · exact absurd heq (by decide)
    rcases List.mem_append.1 hmem with hmem | hmem
    · exact absurd (hparameters _ hmem) (by decide)
    rcases List.mem_append.1 hmem with hmem | hmem
    · exact absurd (hintermediates _ hmem) (by decide)
    · rw [← List.mem_singleton.1 hmem] at hfinal
      exact absurd hfinal (by decide)
  | @short c h =>
    intro hmem
    rw [← List.mem_singleton.1 hmem] at h
    exact absurd h (by decide)

/-- The longest runs of parameters and intermediates are those of the sequence. -/
theorem sequenceLength?_append {body : List Char} (h : IsBody body) (rest : List Char) :
    sequenceLength? (body ++ rest) = some body.length := by
  cases h with
  | @control parameters intermediates final hparameters hintermediates hfinal =>
    have hlast : (final :: rest).takeWhile isIntermediate = [] ∧
        (final :: rest).dropWhile isIntermediate = final :: rest := by
      simp [not_isIntermediate_of_isFinal hfinal]
    have hnext : (intermediates ++ final :: rest).takeWhile isParameter = [] ∧
        (intermediates ++ final :: rest).dropWhile isParameter =
          intermediates ++ final :: rest := by
      cases intermediates with
      | nil => simp [not_isParameter_of_isFinal hfinal]
      | cons d intermediates =>
        have hd := not_isParameter_of_isIntermediate (hintermediates d List.mem_cons_self)
        simp [hd]
    simp only [sequenceLength?, List.cons_append, List.append_assoc, List.nil_append, if_true,
      List.takeWhile_append_of_pos hparameters, List.dropWhile_append_of_pos hparameters, hnext,
      List.append_nil, List.takeWhile_append_of_pos hintermediates,
      List.dropWhile_append_of_pos hintermediates, hlast, hfinal, List.length_cons,
      List.length_append, List.length_nil]
    congr 1
  | @short c h =>
    have hbracket : c ≠ '[' := by
      rintro rfl
      exact absurd h (by decide)
    simp [sequenceLength?, hbracket, h]

/-- A length is found for complete sequences only. -/
theorem exists_of_sequenceLength? {text : List Char} {n : Nat} (h : sequenceLength? text = some n) :
    ∃ body rest, IsBody body ∧ text = body ++ rest ∧ n = body.length := by
  cases text with
  | nil => cases h
  | cons c text =>
    rw [sequenceLength?] at h
    by_cases hbracket : c = '['
    · subst hbracket
      rw [if_pos rfl] at h
      dsimp only at h
      split at h
      · next final rest hrest =>
        split at h
        · next hfinal =>
          have hbody : IsBody ('[' :: (text.takeWhile isParameter ++
              ((text.dropWhile isParameter).takeWhile isIntermediate ++ [final]))) :=
            .control (List.all_eq_true.1 List.all_takeWhile)
              (List.all_eq_true.1 List.all_takeWhile) hfinal
          refine ⟨_, rest, hbody, by simp [← hrest], ?_⟩
          rw [← Option.some.inj h]
          simp
          omega
        · cases h
      · cases h
    · rw [if_neg hbracket] at h
      split at h
      · next hfinal => exact ⟨[c], text, .short hfinal, rfl, (Option.some.inj h).symm⟩
      · cases h

/-- No sequence goes on where another one has ended. -/
theorem IsBody.unique {body body' : List Char} (h : IsBody body) (h' : IsBody body')
    (hbegins : body <+: body') : body = body' := by
  obtain ⟨rest, rfl⟩ := hbegins
  have hlength := sequenceLength?_append h' []
  rw [List.append_nil, sequenceLength?_append h, Option.some.injEq, List.length_append] at hlength
  have hrest : rest = [] := List.eq_nil_of_length_eq_zero (by omega)
  rw [hrest, List.append_nil]

/-- Whether an escape character right before a text starts a complete sequence. -/
def StartsSequence (text : List Char) : Prop :=
  ∃ body, IsBody body ∧ body <+: text

theorem sequenceLength?_eq_none_iff {text : List Char} :
    sequenceLength? text = none ↔ ¬StartsSequence text := by
  constructor
  · rintro hnone ⟨body, hbody, rest, rfl⟩
    rw [sequenceLength?_append hbody] at hnone
    cases hnone
  · intro h
    refine Option.eq_none_iff_forall_ne_some.2 fun n hsome => h ?_
    obtain ⟨body, rest, hbody, rfl, -⟩ := exists_of_sequenceLength? hsome
    exact ⟨body, hbody, List.prefix_append body rest⟩

/-- A sequence is complete before the next escape character comes. -/
theorem IsBody.prefix_of_prefix_append {body : List Char} (h : IsBody body) {text rest : List Char}
    (hbegins : body <+: text ++ escape :: rest) : body <+: text := by
  obtain ⟨after, hafter⟩ := hbegins
  rcases List.append_eq_append_iff.1 hafter with ⟨between, rfl, -⟩ | ⟨between, hbody, hrest⟩
  · exact List.prefix_append body between
  · cases between with
    | nil =>
      rw [hbody, List.append_nil]
    | cons c between =>
      have hescape : escape = c := (List.cons.inj hrest).1
      have hmem : escape ∈ body := by simp [hbody, hescape]
      exact absurd hmem h.escape_not_mem

/-! ## Removing sequences -/

/-- What is left of a text: complete sequences are removed, and everything else is kept, also an
escape character that starts none. -/
inductive Stripped : (text left : List Char) → Prop
  | nil : Stripped [] []
  | sequence {body text left : List Char} (h : IsBody body) (rest : Stripped text left) :
      Stripped (escape :: (body ++ text)) left
  | lone {text left : List Char} (h : ¬StartsSequence text) (rest : Stripped text left) :
      Stripped (escape :: text) (escape :: left)
  | other {c : Char} {text left : List Char} (h : c ≠ escape) (rest : Stripped text left) :
      Stripped (c :: text) (c :: left)

theorem stripped_stripEscapes (text : List Char) : Stripped text (stripEscapes text) := by
  suffices ∀ skip, Stripped (text.drop skip) (stripAfter skip text) from this 0
  induction text with
  | nil =>
    intro skip
    rw [List.drop_nil]
    exact .nil
  | cons c text ih =>
    rintro (_ | skip)
    · rw [List.drop_zero, stripAfter]
      by_cases hescape : c = escape
      · rw [if_pos hescape, hescape]
        cases hlength : sequenceLength? text with
        | none => exact .lone (sequenceLength?_eq_none_iff.1 hlength) (ih 0)
        | some n =>
          obtain ⟨body, rest, hbody, rfl, rfl⟩ := exists_of_sequenceLength? hlength
          have hrest := ih body.length
          rw [List.drop_left] at hrest
          exact .sequence hbody hrest
      · rw [if_neg hescape]
        exact .other hescape (ih 0)
    · exact ih skip

theorem stripAfter_append (front rest : List Char) :
    stripAfter front.length (front ++ rest) = stripEscapes rest := by
  induction front with
  | nil => rfl
  | cons c front ih => exact ih

namespace Stripped

variable {text left : List Char}

/-- There is one way only to remove sequences. -/
theorem eq_stripEscapes (h : Stripped text left) : left = stripEscapes text := by
  induction h with
  | nil => rfl
  | @sequence body text left h _ ih =>
    rw [stripEscapes, stripAfter]
    rw [if_pos rfl, sequenceLength?_append h, ih]
    exact (stripAfter_append body text).symm
  | lone h _ ih =>
    rw [stripEscapes, stripAfter]
    rw [if_pos rfl, sequenceLength?_eq_none_iff.2 h, ih]
    rfl
  | other h _ ih => rw [ih, stripEscapes_cons h]

theorem length_le (h : Stripped text left) : left.length ≤ text.length := by
  induction h with
  | nil => exact Nat.le_refl _
  | sequence _ _ ih =>
    simp only [List.length_cons, List.length_append]
    omega
  | lone _ _ ih => exact Nat.succ_le_succ ih
  | other _ _ ih => exact Nat.succ_le_succ ih

/-- Texts are stripped one after the other where the second one starts with an escape character. -/
theorem append {text' left' : List Char} (h : Stripped text left)
    (h' : Stripped (escape :: text') left') :
    Stripped (text ++ escape :: text') (left ++ left') := by
  induction h with
  | nil => exact h'
  | @sequence body text left h _ ih =>
    rw [List.cons_append, List.append_assoc]
    exact .sequence h ih
  | lone h _ ih =>
    refine .lone ?_ ih
    rintro ⟨body, hbody, hbegins⟩
    exact h ⟨body, hbody, hbody.prefix_of_prefix_append hbegins⟩
  | other h _ ih => exact .other h ih

/-- An escape character that is left starts no sequence where it stands. -/
theorem exists_of_append_escape (h : Stripped text left) {before after : List Char}
    (hleft : left = before ++ escape :: after) :
    ∃ front rest, text = front ++ escape :: rest ∧ ¬StartsSequence rest ∧ Stripped rest after := by
  induction h generalizing before with
  | nil => simp at hleft
  | @sequence body text left _ _ ih =>
    obtain ⟨front, rest, rfl, hstarts, hrest⟩ := ih hleft
    exact ⟨escape :: (body ++ front), rest, by simp, hstarts, hrest⟩
  | @lone text left h hstripped ih =>
    cases before with
    | nil =>
      obtain rfl : left = after := (List.cons.inj hleft).2
      exact ⟨[], text, rfl, h, hstripped⟩
    | cons d before =>
      obtain ⟨front, rest, rfl, hstarts, hrest⟩ := ih (List.cons.inj hleft).2
      exact ⟨escape :: front, rest, rfl, hstarts, hrest⟩
  | @other c text left h _ ih =>
    cases before with
    | nil => exact absurd (List.cons.inj hleft).1 h
    | cons d before =>
      obtain ⟨front, rest, rfl, hstarts, hrest⟩ := ih (List.cons.inj hleft).2
      exact ⟨c :: front, rest, rfl, hstarts, hrest⟩

end Stripped

/-! ## Interrupted sequences -/

/-- Whether a second text is a first one with complete sequences put in before its characters. -/
inductive Woven : (kept text : List Char) → Prop
  | nil : Woven [] []
  | keep {c : Char} {kept text : List Char} (rest : Woven kept text) : Woven (c :: kept) (c :: text)
  | sequence {c : Char} {body kept text : List Char} (h : IsBody body)
      (rest : Woven (c :: kept) text) : Woven (c :: kept) (escape :: (body ++ text))

/-- Whether a text holds a complete sequence. -/
def HoldsSequence (text : List Char) : Prop :=
  ∃ body, IsBody body ∧ escape :: body <:+: text

theorem HoldsSequence.cons {text : List Char} (h : HoldsSequence text) (c : Char) :
    HoldsSequence (c :: text) := by
  obtain ⟨body, hbody, hinfix⟩ := h
  exact ⟨body, hbody, List.infix_cons hinfix⟩

/-- Whether a text holds a sequence that is cut by complete sequences: an escape character, and
behind it the characters that would complete it, with sequences put in between them. -/
def IsInterrupted (text : List Char) : Prop :=
  ∃ body woven, IsBody body ∧ Woven body woven ∧ woven ≠ body ∧ escape :: woven <:+: text

/-- Where something has been put in, a part of what was kept is read before it. -/
theorem Woven.exists_front {kept text : List Char} (h : Woven kept text) (hne : text ≠ kept) :
    ∃ front back rest, kept = front ++ back ∧ back ≠ [] ∧ text = front ++ escape :: rest := by
  induction h with
  | nil => exact absurd rfl hne
  | @keep c kept text _ ih =>
    obtain ⟨front, back, rest, rfl, hback, rfl⟩ := ih fun heq => hne (congrArg (c :: ·) heq)
    exact ⟨c :: front, back, rest, rfl, hback, rfl⟩
  | sequence h _ _ => exact ⟨[], _, _, rfl, List.cons_ne_nil _ _, rfl⟩

/-- The escape character of an interrupted sequence starts no other one. -/
theorem Woven.not_startsSequence {body woven : List Char} (h : Woven body woven)
    (hbody : IsBody body) (hne : woven ≠ body) (rest : List Char) :
    ¬StartsSequence (woven ++ rest) := by
  obtain ⟨front, back, more, rfl, hback, rfl⟩ := h.exists_front hne
  rintro ⟨body', hbody', hbegins⟩
  rw [List.append_assoc] at hbegins
  have hfront : body' <+: front := hbody'.prefix_of_prefix_append hbegins
  obtain rfl := hbody'.unique hbody (hfront.trans (List.prefix_append front back))
  have hle := hfront.length_le
  have hpos := List.length_pos_iff.2 hback
  rw [List.length_append] at hle
  omega

/-- What was put in is removed. -/
theorem Woven.stripped_append {kept woven text left : List Char} (h : Woven kept woven)
    (hkept : escape ∉ kept) (htext : Stripped text left) :
    Stripped (woven ++ text) (kept ++ left) := by
  induction h with
  | nil => exact htext
  | keep _ ih =>
    obtain ⟨hc, hrest⟩ := List.ne_and_not_mem_of_not_mem_cons hkept
    exact .other (Ne.symm hc) (ih hrest)
  | sequence hbody _ ih =>
    rw [List.cons_append, List.append_assoc]
    exact .sequence hbody (ih hkept)

/-- What is left at the start of a text is woven into the text. -/
theorem Stripped.exists_woven {text left : List Char} (h : Stripped text left)
    {kept after : List Char} (hleft : left = kept ++ after) :
    ∃ woven rest, Woven kept woven ∧ text = woven ++ rest := by
  induction h generalizing kept with
  | nil =>
    obtain ⟨rfl, -⟩ := List.append_eq_nil_iff.1 hleft.symm
    exact ⟨[], [], .nil, rfl⟩
  | @sequence body text left hbody _ ih =>
    obtain ⟨woven, rest, hwoven, rfl⟩ := ih hleft
    cases kept with
    | nil => exact ⟨[], _, .nil, rfl⟩
    | cons c kept => exact ⟨_, rest, .sequence hbody hwoven, by simp⟩
  | lone _ _ ih | other _ _ ih =>
    cases kept with
    | nil => exact ⟨[], _, .nil, rfl⟩
    | cons d kept =>
      obtain ⟨rfl, hkept⟩ := List.cons.inj hleft
      obtain ⟨woven, rest, hwoven, rfl⟩ := ih hkept
      exact ⟨_, rest, .keep hwoven, rfl⟩

/-! ## What is left -/

theorem isInterrupted_of_holdsSequence {text : List Char} (h : HoldsSequence (stripEscapes text)) :
    IsInterrupted text := by
  obtain ⟨body, hbody, before, after, hleft⟩ := h
  rw [List.append_assoc, List.cons_append] at hleft
  obtain ⟨front, rest, rfl, hstarts, hrest⟩ :=
    (stripped_stripEscapes text).exists_of_append_escape hleft.symm
  obtain ⟨woven, more, hwoven, rfl⟩ := hrest.exists_woven rfl
  refine ⟨body, woven, hbody, hwoven, ?_, front, more, by simp⟩
  rintro rfl
  exact hstarts ⟨woven, hbody, List.prefix_append woven more⟩

theorem holdsSequence_of_isInterrupted {text : List Char} (h : IsInterrupted text) :
    HoldsSequence (stripEscapes text) := by
  obtain ⟨body, woven, hbody, hwoven, hne, front, more, rfl⟩ := h
  have hinner : Stripped (escape :: (woven ++ more)) (escape :: (body ++ stripEscapes more)) :=
    .lone (hwoven.not_startsSequence hbody hne more)
      (hwoven.stripped_append hbody.escape_not_mem (stripped_stripEscapes more))
  have hall := (stripped_stripEscapes front).append hinner
  refine ⟨body, hbody, stripEscapes front, stripEscapes more, ?_⟩
  rw [List.append_assoc, List.append_assoc, List.cons_append, List.cons_append,
    hall.eq_stripEscapes]

/-- Nothing is removed from a text exactly if it holds no sequence. -/
theorem stripEscapes_eq_self_iff {text : List Char} :
    stripEscapes text = text ↔ ¬HoldsSequence text := by
  constructor
  · rintro hself ⟨body, hbody, front, more, rfl⟩
    -- The sequence is removed, and the two parts around it do not grow.
    have hinner : Stripped (escape :: (body ++ more)) (stripEscapes more) :=
      .sequence hbody (stripped_stripEscapes more)
    have hall := (stripped_stripEscapes front).append hinner
    rw [List.append_assoc, List.cons_append, ← hall.eq_stripEscapes] at hself
    have hlength := congrArg List.length hself
    have hfront := (stripped_stripEscapes front).length_le
    have hmore := (stripped_stripEscapes more).length_le
    simp only [List.length_append, List.length_cons] at hlength
    omega
  · intro hnone
    have h := stripped_stripEscapes text
    generalize stripEscapes text = left at h
    induction h with
    | nil => rfl
    | @sequence body text left hbody _ _ =>
      exact absurd ⟨body, hbody, [], text, rfl⟩ hnone
    | lone _ _ ih | other _ _ ih => rw [ih fun h => hnone (h.cons _)]

/-- All complete sequences of a text are removed, and nothing else is. What is left holds a sequence
exactly if the text is interrupted, and these are also the texts of which a second pass removes
more. -/
theorem stripEscapes_leaves_iff_isInterrupted (text : List Char) :
    Stripped text (stripEscapes text) ∧
      (HoldsSequence (stripEscapes text) ↔ IsInterrupted text) ∧
      (stripEscapes (stripEscapes text) = stripEscapes text ↔ ¬IsInterrupted text) := by
  have hleft : HoldsSequence (stripEscapes text) ↔ IsInterrupted text :=
    ⟨isInterrupted_of_holdsSequence, holdsSequence_of_isInterrupted⟩
  exact ⟨stripped_stripEscapes text, hleft, stripEscapes_eq_self_iff.trans (not_congr hleft)⟩

/-- A sequence that resets all colours, cut by another one. -/
def nestedReset : List Char := "\x1b\x1b[m[m".toList

/-- The outer sequence is left, and a second pass removes it. -/
theorem stripEscapes_nestedReset :
    HoldsSequence (stripEscapes nestedReset) ∧
      stripEscapes (stripEscapes nestedReset) ≠ stripEscapes nestedReset := by
  have hbody : IsBody ("[m".toList) :=
    @IsBody.control [] [] 'm' nofun nofun (by decide)
  exact ⟨⟨"[m".toList, hbody, [], [], by decide⟩, by decide⟩

/-! ## Texts in chunks -/

/-- A piece of what is written for a terminal: plain text, in which no escape character stands, or
one complete sequence. -/
inductive Chunk
  | plain (text : List Char) (h : escape ∉ text)
  | sequence (body : List Char) (h : IsBody body)

namespace Chunk

/-- A chunk as it is written. -/
def written : Chunk → List Char
  | plain text _ => text
  | sequence body _ => escape :: body

/-- What a terminal shows of a chunk. -/
def shown : Chunk → List Char
  | plain text _ => text
  | sequence _ _ => []

theorem escape_not_mem_shown (chunk : Chunk) : escape ∉ chunk.shown := by
  cases chunk with
  | plain text h => exact h
  | sequence body h => exact List.not_mem_nil

end Chunk

theorem Stripped.plain_append {plain text left : List Char} (hplain : escape ∉ plain)
    (h : Stripped text left) : Stripped (plain ++ text) (plain ++ left) := by
  induction plain with
  | nil => exact h
  | cons c plain ih =>
    obtain ⟨hc, hrest⟩ := List.ne_and_not_mem_of_not_mem_cons hplain
    exact .other (Ne.symm hc) (ih hrest)

theorem Chunk.stripped_append {text left : List Char} (chunk : Chunk) (h : Stripped text left) :
    Stripped (chunk.written ++ text) (chunk.shown ++ left) := by
  cases chunk with
  | plain piece hpiece => exact h.plain_append hpiece
  | sequence body hbody => exact .sequence hbody h

theorem Chunk.stripped_flatMap (chunks : List Chunk) :
    Stripped (chunks.flatMap written) (chunks.flatMap shown) := by
  induction chunks with
  | nil => exact .nil
  | cons chunk chunks ih =>
    rw [List.flatMap_cons, List.flatMap_cons]
    exact chunk.stripped_append ih

theorem Stripped.exists_chunks {text left : List Char} (h : Stripped text left)
    (hleft : escape ∉ left) : ∃ chunks : List Chunk, text = chunks.flatMap Chunk.written := by
  induction h with
  | nil => exact ⟨[], rfl⟩
  | @sequence body text left hbody _ ih =>
    obtain ⟨chunks, rfl⟩ := ih hleft
    exact ⟨.sequence body hbody :: chunks, rfl⟩
  | lone _ _ _ => exact absurd List.mem_cons_self hleft
  | @other c text left hc _ ih =>
    obtain ⟨chunks, rfl⟩ := ih (List.not_mem_of_not_mem_cons hleft)
    have hpiece : escape ∉ [c] := fun hmem => hc (List.mem_singleton.1 hmem).symm
    exact ⟨.plain [c] hpiece :: chunks, rfl⟩

/-- The texts in chunks are those of which no escape character is left. -/
theorem exists_chunks_iff {text : List Char} :
    (∃ chunks : List Chunk, text = chunks.flatMap Chunk.written) ↔
      escape ∉ stripEscapes text := by
  constructor
  · rintro ⟨chunks, rfl⟩ hmem
    rw [← (Chunk.stripped_flatMap chunks).eq_stripEscapes] at hmem
    obtain ⟨chunk, -, hchunk⟩ := List.mem_flatMap.1 hmem
    exact chunk.escape_not_mem_shown hchunk
  · exact (stripped_stripEscapes text).exists_chunks

/-- Of a text in chunks the plain ones are left, one after the other as they stand there. A text
without an escape character is one plain chunk and stays as it is. -/
theorem stripEscapes_written (chunks : List Chunk) :
    stripEscapes (chunks.flatMap Chunk.written) = chunks.flatMap Chunk.shown ∧
      ∀ text, escape ∉ text → stripEscapes text = text := by
  refine ⟨(Chunk.stripped_flatMap chunks).eq_stripEscapes.symm, fun text h => ?_⟩
  have hplain := (Chunk.stripped_flatMap [.plain text h]).eq_stripEscapes
  simpa [Chunk.written, Chunk.shown] using hplain.symm

/-- Plain text that looks like a sequence without its escape character, before and behind sequences
with parameters, with intermediates, with neither, and of one character. -/
theorem stripEscapes_written_lookalikes :
    stripEscapes "[31m\x1b[1;32m;5m\x1b[?2 q[0m\x1b[mm\x1bMM".toList = "[31m;5m[0mmM".toList ∧
      escape ∉ "[31m".toList ∧ stripEscapes "[31m".toList = "[31m".toList := by
  have hcolor : IsBody "[1;32m".toList :=
    @IsBody.control "1;32".toList [] 'm' (List.all_eq_true.1 rfl) nofun rfl
  have hcursor : IsBody "[?2 q".toList :=
    @IsBody.control "?2".toList " ".toList 'q' (List.all_eq_true.1 rfl) (List.all_eq_true.1 rfl) rfl
  have hreset : IsBody "[m".toList := @IsBody.control [] [] 'm' nofun nofun rfl
  have hplain : escape ∉ "[31m".toList := by decide
  obtain ⟨hchunks, hunchanged⟩ := stripEscapes_written
    [.plain "[31m".toList hplain, .sequence _ hcolor, .plain ";5m".toList (by decide),
      .sequence _ hcursor, .plain "[0m".toList (by decide), .sequence _ hreset,
      .plain "m".toList (by decide), .sequence "M".toList (.short (by decide)),
      .plain "M".toList (by decide)]
  exact ⟨hchunks, hplain, hunchanged _ hplain⟩

end TestReport.Text
