import TestReport.Proofs.Grammar

/-!
# Inside and outside of strings

An opening brace of accepted text either opens an object or stands in a string. Which of the two it
is depends on the phase that the text is in there, and `Tidy` says of the text from some place on
that it fits its phase: outside of strings there is no backslash, and as no token starts with an
`a`, no `a` comes right after a string. Accepted text is tidy (`Reads.tidy`).

A reader that is set down inside a string takes the quote that closes it for one that opens a
string. From there on it is inside a string exactly where the text is outside of all, since no
backslash can keep the two from turning over together. So what such a reader takes for a key is what
stands between two strings, and that never starts with an `a` (`Reads.tidy_inside`).
-/

namespace TestReport.Json

/-! ## Where strings start and end -/

/-- Where a position of a text is: between tokens or inside a word or number, right after the quote
that closes a string, inside a string, or after a backslash inside a string. -/
inductive Phase
  | outside
  | closed
  | inside
  | escaped

/-- Outside of strings there is no backslash, and no string is followed by an `a` at once. -/
def Tidy : Phase → List Char → Prop
  | _, [] => True
  | .outside, c :: s => if c = '"' then Tidy .inside s else c ≠ '\\' ∧ Tidy .outside s
  | .closed, c :: s =>
    if c = '"' then Tidy .inside s else c ≠ 'a' ∧ c ≠ '\\' ∧ Tidy .outside s
  | .inside, c :: s =>
    if c = '"' then Tidy .closed s else if c = '\\' then Tidy .escaped s else Tidy .inside s
  | .escaped, _ :: s => Tidy .inside s

theorem Tidy.outside {s : List Char} (h : Tidy .closed s) : Tidy .outside s := by
  cases s with
  | nil => trivial
  | cons c s =>
    unfold Tidy at h ⊢
    split at h
    next hc => rwa [if_pos hc]
    next hc =>
      rw [if_neg hc]
      exact h.2

theorem tidy_outside_cons {c : Char} {s : List Char} (hquote : c ≠ '"') (hslash : c ≠ '\\')
    (h : Tidy .outside s) : Tidy .outside (c :: s) := by
  rw [Tidy, if_neg hquote]
  exact ⟨hslash, h⟩

theorem tidy_closed_cons {c : Char} {s : List Char} (hquote : c ≠ '"') (hslash : c ≠ '\\')
    (ha : c ≠ 'a') (h : Tidy .outside s) : Tidy .closed (c :: s) := by
  rw [Tidy, if_neg hquote]
  exact ⟨ha, hslash, h⟩

theorem Tidy.closed {c : Char} {s : List Char} (h : Tidy .outside (c :: s)) (ha : c ≠ 'a') :
    Tidy .closed (c :: s) := by
  unfold Tidy at h ⊢
  split at h
  next hc => rwa [if_pos hc]
  next hc =>
    rw [if_neg hc]
    exact ⟨ha, h⟩

theorem tidy_inside_append {digits s : List Char}
    (hdigits : ∀ c ∈ digits, (Text.hexValue? c).isSome = true) (h : Tidy .inside s) :
    Tidy .inside (digits ++ s) := by
  induction digits with
  | nil => exact h
  | cons c digits ih =>
    obtain ⟨hc, hrest⟩ := List.forall_mem_cons.1 hdigits
    obtain ⟨hquote, hslash, -⟩ := ne_of_hexValue? hc
    rw [List.cons_append, Tidy, if_neg hquote, if_neg hslash]
    exact ih hrest

theorem Escape.tidy {d : Char} {e s : List Char} (he : Escape d e) (h : Tidy .inside s) :
    Tidy .escaped (e ++ s) := by
  cases he with
  | quote => exact h
  | short hc => exact h
  | unicode hdigits => exact tidy_inside_append hdigits h
  | pair hfirst hsecond =>
    rw [List.cons_append, Tidy, List.append_assoc]
    have hlast : Tidy .inside (_ ++ s) := tidy_inside_append hsecond h
    exact tidy_inside_append hfirst hlast

theorem Quoted.tidy {cs s rest : List Char} (h : Quoted cs s rest) (hrest : Tidy .closed rest) :
    Tidy .inside s := by
  induction h with
  | close => exact hrest
  | char hquote hslash _ ih =>
    rw [Tidy, if_neg hquote, if_neg hslash]
    exact ih hrest
  | escape he _ ih => exact he.tidy (ih hrest)

theorem Scans.tidy {s rest : List Char} (h : Scans s rest) (hrest : Tidy .outside rest) :
    Tidy .outside s := by
  induction h with
  | done => exact hrest
  | char hc _ ih =>
    obtain ⟨hquote, hslash, -⟩ := isScalarChar_ne hc
    exact tidy_outside_cons hquote hslash (ih hrest)

theorem Tidy.between {c : Char} {s : List Char} (hc : isBetween c = true) (h : Tidy .closed s) :
    Tidy .closed (c :: s) := by
  obtain ⟨hquote, hslash, ha⟩ := isBetween_ne hc
  exact tidy_closed_cons hquote hslash ha h.outside

theorem Tidy.colon {w s : List Char} (hw : ∀ c ∈ w, isSpace c = true) (h : Tidy .closed s) :
    Tidy .closed (w ++ ':' :: s) := by
  induction w with
  | nil => exact h.between (by decide)
  | cons c w ih =>
    obtain ⟨hc, hw⟩ := List.forall_mem_cons.1 hw
    exact (ih hw).between (isBetween_of_isSpace hc)

/-- Accepted text is tidy if the text after it is. -/
theorem Reads.tidy {part : Part} {s rest : List Char} (h : Reads part s rest)
    (hrest : Tidy .closed rest) : Tidy .closed s := by
  induction h with
  | skip hskip _ ih => exact (ih hrest).between (isBetween_of_skip hskip)
  | scalar _ _ ha hscan => exact (hscan.tidy hrest.outside).closed ha
  | string hcs => exact hcs.tidy hrest
  | array _ ih => exact (ih hrest).between (by decide)
  | object _ _ ih => exact (ih hrest).between (by decide)
  | endItems => exact hrest.between (by decide)
  | endMembers => exact hrest.between (by decide)
  | item _ _ ih ih' => exact ih (ih' hrest)
  | member hkey hw _ _ ih ih' =>
    have hvalue := ih (ih' hrest)
    exact hkey.tidy (hvalue.colon hw)

/-! ## Positions -/

/-- A position that a run of other characters does not hold lies behind the run. -/
theorem suffix_of_suffix_append {a : Char} {t run s : List Char} (hrun : ∀ c ∈ run, c ≠ a)
    (h : a :: t <:+ run ++ s) : a :: t <:+ s := by
  induction run with
  | nil => exact h
  | cons c run ih =>
    obtain ⟨hc, hrun⟩ := List.forall_mem_cons.1 hrun
    rcases List.suffix_cons_iff.1 h with heq | h
    · exact absurd (List.cons.inj heq).1.symm hc
    · exact ih hrun h

theorem suffix_of_suffix_cons {a c : Char} {t s : List Char} (hc : c ≠ a) (h : a :: t <:+ c :: s) :
    a :: t <:+ s :=
  (List.suffix_cons_iff.1 h).resolve_left fun heq => hc (List.cons.inj heq).1.symm

/-! ## Reading from inside a string -/

theorem Tidy.of_inside_cons {c : Char} {s : List Char} (hquote : c ≠ '"') (hslash : c ≠ '\\')
    (h : Tidy .inside (c :: s)) : Tidy .inside s := by
  rwa [Tidy, if_neg hquote, if_neg hslash] at h

theorem Tidy.of_between {c : Char} {s : List Char} (hc : isBetween c = true)
    (h : Tidy .inside (c :: s)) : Tidy .inside s := by
  obtain ⟨hquote, hslash, -⟩ := isBetween_ne hc
  exact h.of_inside_cons hquote hslash

theorem Tidy.of_colon {w s : List Char} (hw : ∀ c ∈ w, isSpace c = true)
    (h : Tidy .inside (w ++ ':' :: s)) : Tidy .inside s := by
  induction w with
  | nil => exact h.of_between (by decide)
  | cons c w ih =>
    obtain ⟨hc, hw⟩ := List.forall_mem_cons.1 hw
    exact ih hw (h.of_between (isBetween_of_isSpace hc))

theorem Scans.tidy_inside {s rest : List Char} (h : Scans s rest) (hs : Tidy .inside s) :
    Tidy .inside rest := by
  induction h with
  | done => exact hs
  | char hc _ ih =>
    obtain ⟨hquote, hslash, -⟩ := isScalarChar_ne hc
    exact ih (hs.of_inside_cons hquote hslash)

/-- What is read as a string outside of strings ends at a quote that opens one. -/
theorem Quoted.tidy_inside {cs s rest : List Char} (h : Quoted cs s rest) (hs : Tidy .outside s) :
    Tidy .inside rest := by
  induction h with
  | close => exact hs
  | char hquote _ _ ih =>
    rw [Tidy, if_neg hquote] at hs
    exact ih hs.2
  | escape =>
    rw [Tidy, if_neg (by decide)] at hs
    exact absurd rfl hs.1

/-- What is read as a string right after a string does not start with an `a`. -/
theorem Quoted.head_ne {cs s rest : List Char} (h : Quoted cs s rest) (hs : Tidy .closed s) :
    cs.head? ≠ some 'a' := by
  cases h with
  | close => simp
  | char hquote =>
    rw [Tidy, if_neg hquote] at hs
    simpa using hs.1
  | escape =>
    rw [Tidy, if_neg (by decide)] at hs
    exact absurd rfl hs.2.1

/-- A reader that starts inside a string takes strings for what is between them, and back: it comes
out inside a string again, and no key that it sees starts with an `a`. -/
theorem Reads.tidy_inside {part : Part} {s rest : List Char} (h : Reads part s rest)
    (hs : Tidy .inside s) :
    Tidy .inside rest ∧
      ∀ ms, part = .members ms → ∀ m ∈ ms, m.1.toList.head? ≠ some 'a' := by
  induction h with
  | skip hskip _ ih => exact ih (hs.of_between (isBetween_of_skip hskip))
  | scalar _ _ _ hscan => exact ⟨hscan.tidy_inside hs, nofun⟩
  | string hcs => exact ⟨hcs.tidy_inside (Tidy.outside hs), nofun⟩
  | array _ ih => exact ⟨(ih (hs.of_between (by decide))).1, nofun⟩
  | object _ _ ih => exact ⟨(ih (hs.of_between (by decide))).1, nofun⟩
  | endItems => exact ⟨hs.of_between (by decide), nofun⟩
  | endMembers =>
    refine ⟨hs.of_between (by decide), ?_⟩
    rintro ms hms
    cases hms
    exact fun _ hm => nomatch hm
  | item _ _ ih ih' => exact ⟨(ih' (ih hs).1).1, nofun⟩
  | @member key _ _ _ _ _ v ms hkey hw _ _ ih ih' =>
    -- the quote of the key closes a string of the text, and what is read as the key comes next
    have hclosed : Tidy .closed _ := hs
    have hvalue := (hkey.tidy_inside hclosed.outside).of_colon hw
    obtain ⟨hrest, hms⟩ := ih' (ih hvalue).1
    refine ⟨hrest, ?_⟩
    rintro ms' hms'
    cases hms'
    refine List.forall_mem_cons.2 ⟨?_, hms ms rfl⟩
    rw [String.toList_ofList]
    exact hkey.head_ne hclosed

/-- What is read at an opening brace is an object. -/
theorem exists_of_reads_brace {v : Json} {s rest : List Char}
    (h : Reads (.value v) ('\x7b' :: s) rest) :
    ∃ ms, v = .obj ms ∧ Reads (.members ms) s rest := by
  cases h with
  | skip hskip => exact absurd hskip (by decide)
  | scalar _ hc => exact absurd hc (by decide)
  | object _ h => exact ⟨_, rfl, h⟩

end TestReport.Json
