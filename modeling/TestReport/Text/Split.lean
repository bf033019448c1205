/-!
# Cutting a text at a character

`splitAll` cuts a text at every occurrence of a character, which is dropped. There is always one
piece more than there are cuts, so two cuts side by side leave an empty piece between them. No piece
holds the character (`not_mem_of_mem_splitAll`), and joining the pieces gives the text back
(`intercalate_splitAll`).
-/

namespace TestReport.Text

/-- The pieces of a text between the occurrences of a character. -/
def splitAll (separator : Char) : List Char → List (List Char)
  | [] => [[]]
  | c :: rest =>
    if c = separator then [] :: splitAll separator rest
    else
      match splitAll separator rest with
      | piece :: pieces => (c :: piece) :: pieces
      | [] => [[c]]

theorem splitAll_ne_nil (separator : Char) (text : List Char) : splitAll separator text ≠ [] := by
  cases text with
  | nil => simp [splitAll]
  | cons c rest =>
    unfold splitAll
    split
    · simp
    · split <;> simp

theorem not_mem_of_mem_splitAll {separator : Char} {text piece : List Char}
    (h : piece ∈ splitAll separator text) : separator ∉ piece := by
  induction text generalizing piece with
  | nil => simp_all [splitAll]
  | cons c rest ih =>
    unfold splitAll at h
    split at h
    · rcases List.mem_cons.1 h with rfl | h
      · simp
      · exact ih h
    · next hc =>
      split at h
      · next p ps hp =>
        rcases List.mem_cons.1 h with rfl | h
        · have hmem : p ∈ splitAll separator rest := by simp [hp]
          simp [ih hmem, Ne.symm hc]
        · exact ih (by simp [hp, h])
      · next hp => exact absurd hp (splitAll_ne_nil separator rest)

/-- Cutting loses nothing but the separators. -/
theorem intercalate_splitAll (separator : Char) (text : List Char) :
    [separator].intercalate (splitAll separator text) = text := by
  induction text with
  | nil => rfl
  | cons c rest ih =>
    unfold splitAll
    split
    · next hc =>
      obtain ⟨p, ps, hp⟩ := List.exists_cons_of_ne_nil (splitAll_ne_nil separator rest)
      rw [hp] at ih ⊢
      simpa [List.intercalate, hc] using ih
    · split
      · next p ps hp =>
        rw [hp] at ih
        cases ps <;> simp_all [List.intercalate]
      · next hp => exact absurd hp (splitAll_ne_nil separator rest)

example : splitAll '/' "a//b/".toList = ["a".toList, [], "b".toList, []] := by decide

end TestReport.Text
