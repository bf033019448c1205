/-!
# Searching a text

Two questions about a piece of text inside a longer one: whether it occurs at all
(`occursIn`), and where its last occurrence cuts the text in two (`splitLast?`). Both look at every
position in turn, so they find occurrences that overlap. `splitLastWhere?` cuts a text at the last
character of a class instead (`splitLastWhere?_eq_some_iff`). A text is compared with a whole one up
to the case of letters by `equalUpToCase`.
-/

namespace TestReport.Text

/-- Whether two texts are equal up to the case of ASCII letters. -/
def equalUpToCase (s t : List Char) : Bool :=
  s.map Char.toLower == t.map Char.toLower

/-- Whether `piece` occurs somewhere in a text. -/
def occursIn (piece : List Char) : List Char → Bool
  | [] => piece.isEmpty
  | c :: rest => piece.isPrefixOf (c :: rest) || occursIn piece rest

/-- A text cut at the last occurrence of `separator`: what stands before it and what stands after.
-/
def splitLast? (separator : List Char) : List Char → Option (List Char × List Char)
  | [] => if separator.isEmpty then some ([], []) else none
  | c :: rest =>
    match splitLast? separator rest with
    | some (before, after) => some (c :: before, after)
    | none =>
      if separator.isPrefixOf (c :: rest) then some ([], (c :: rest).drop separator.length)
      else none

/-- A text cut at its last character of a class, which is dropped. -/
def splitLastWhere? (p : Char → Bool) : List Char → Option (List Char × List Char)
  | [] => none
  | c :: rest =>
    match splitLastWhere? p rest with
    | some (before, after) => some (c :: before, after)
    | none => if p c then some ([], rest) else none

theorem occursIn_iff {piece text : List Char} :
    occursIn piece text = true ↔ piece <:+: text := by
  induction text with
  | nil => rw [occursIn, List.isEmpty_iff, List.infix_nil]
  | cons c rest ih =>
    rw [occursIn, Bool.or_eq_true, List.isPrefixOf_iff_prefix, ih, List.infix_cons_iff]

/-- Cutting loses nothing but the separator. -/
theorem append_of_splitLast? {separator text before after : List Char}
    (h : splitLast? separator text = some (before, after)) :
    before ++ separator ++ after = text := by
  induction text generalizing before with
  | nil =>
    unfold splitLast? at h
    split at h
    · next hs => simp_all [List.isEmpty_iff]
    · simp at h
  | cons c rest ih =>
    unfold splitLast? at h
    split at h
    · next b a hb =>
      obtain ⟨rfl, rfl⟩ : c :: b = before ∧ a = after := by simpa using h
      simpa using ih hb
    · split at h
      · next hp =>
        obtain ⟨rfl, rfl⟩ : [] = before ∧ (c :: rest).drop separator.length = after := by
          simpa using h
        obtain ⟨t, ht⟩ := List.isPrefixOf_iff_prefix.1 hp
        simp [← ht]
      · simp at h

section LastWhere

variable {p : Char → Bool} {text before after : List Char}

theorem splitLastWhere?_eq_none_iff : splitLastWhere? p text = none ↔ ∀ c ∈ text, p c = false := by
  induction text with
  | nil => simp [splitLastWhere?]
  | cons c rest ih =>
    rw [List.forall_mem_cons, ← ih, splitLastWhere?]
    cases splitLastWhere? p rest with
    | some parts => simp
    | none => simp

theorem splitLastWhere?_append {c : Char} (hc : p c = true) (hafter : ∀ d ∈ after, p d = false)
    (before : List Char) : splitLastWhere? p (before ++ c :: after) = some (before, after) := by
  induction before with
  | nil => rw [List.nil_append, splitLastWhere?, splitLastWhere?_eq_none_iff.2 hafter, if_pos hc]
  | cons d before ih => rw [List.cons_append, splitLastWhere?, ih]

/-- The cut is made at the last character of the class. -/
theorem splitLastWhere?_eq_some_iff :
    splitLastWhere? p text = some (before, after) ↔
      ∃ c, p c = true ∧ text = before ++ c :: after ∧ ∀ d ∈ after, p d = false := by
  constructor
  · intro h
    induction text generalizing before with
    | nil => cases h
    | cons c rest ih =>
      rw [splitLastWhere?] at h
      cases hlater : splitLastWhere? p rest with
      | some parts =>
        rw [hlater] at h
        obtain ⟨rfl, rfl⟩ := Prod.mk.inj (Option.some.inj h)
        obtain ⟨d, hd, hrest, hafter⟩ := ih hlater
        exact ⟨d, hd, congrArg (c :: ·) hrest, hafter⟩
      | none =>
        rw [hlater] at h
        obtain ⟨hc, hparts⟩ : p c = true ∧ ([], rest) = (before, after) := by simpa using h
        obtain ⟨rfl, rfl⟩ := Prod.mk.inj hparts
        exact ⟨c, hc, rfl, splitLastWhere?_eq_none_iff.1 hlater⟩
  · rintro ⟨c, hc, rfl, hafter⟩
    exact splitLastWhere?_append hc hafter before

end LastWhere

end TestReport.Text
