/-!
# Bytes of a text

Places in a text are counted in the bytes of its UTF-8 form.
-/

namespace TestReport.Text

/-- The number of bytes of a text. -/
def byteCount (text : List Char) : Nat :=
  text.foldl (fun n c => n + c.utf8Size) 0

theorem byteCount_append (s t : List Char) : byteCount (s ++ t) = byteCount s + byteCount t := by
  have shift (n : Nat) (u : List Char) :
      u.foldl (fun n c => n + c.utf8Size) n = n + byteCount u := by
    induction u generalizing n with
    | nil => rfl
    | cons c u ih =>
      simp only [byteCount, List.foldl_cons] at ih ⊢
      rw [ih, ih (0 + c.utf8Size)]
      omega
  rw [byteCount, List.foldl_append, shift]
  rfl

end TestReport.Text
