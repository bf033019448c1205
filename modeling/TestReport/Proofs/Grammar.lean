import TestReport.Proofs.Tokens

/-!
# A grammar of JSON text

What the reader accepts, as a derivation (`Reads`), so that a fact about accepted text can be proved
by induction on how the text was read. The grammar is loose: it lets commas stand anywhere and does
not say what a number looks like. It is exact about what the searches for a report depend on, which
is where strings start and end, which string is a key, and which brace opens which object.

An object of the grammar also carries the reader's own answer at its opening brace, under the full
limit on nesting. The reader stays with its answer when it may nest deeper (`readValue_of_le`), so
an object inside others is read the same from its brace as it was from theirs.
-/

namespace TestReport.Json

/-! ## Spaces -/

theorem isSpace_ne {c : Char} (h : isSpace c = true) : c ≠ ':' ∧ c ≠ '\x7b' := by
  refine ⟨?_, ?_⟩ <;> rintro rfl <;> exact absurd h (by decide)

/-- The characters that stand between tokens: spaces and punctuation. -/
def isBetween (c : Char) : Bool :=
  isSpace c || ['[', ']', '\x7b', '\x7d', ',', ':'].contains c

theorem isBetween_of_isSpace {c : Char} (h : isSpace c = true) : isBetween c = true := by
  rw [isBetween, h, Bool.true_or]

theorem isBetween_ne {c : Char} (h : isBetween c = true) : c ≠ '"' ∧ c ≠ '\\' ∧ c ≠ 'a' := by
  refine ⟨?_, ?_, ?_⟩ <;> rintro rfl <;> exact absurd h (by decide)

theorem isBlank_of_isSpace {c : Char} (h : isSpace c = true) : Text.isBlank c = true := by
  simp only [isSpace, Bool.or_eq_true, beq_iff_eq] at h
  rcases h with ((rfl | rfl) | rfl) | rfl <;> decide

theorem isSpace_dropWhile_append (s : List Char) :
    ∃ w, (∀ c ∈ w, isSpace c = true) ∧ s = w ++ skipSpace s :=
  ⟨s.takeWhile isSpace, List.all_eq_true.1 List.all_takeWhile,
    List.takeWhile_append_dropWhile.symm⟩

theorem skipSpace_of_not_isSpace {c : Char} (hc : isSpace c = false) (s : List Char) :
    skipSpace (c :: s) = c :: s :=
  List.dropWhile_cons_of_neg (by simp [hc])

theorem readValue_of_skipSpace {d : Nat} {s : List Char} {c : Char} {r : List Char}
    (hs : skipSpace s = c :: r) (hc : isSpace c = false) :
    readValue d s = readValue d (c :: r) := by
  unfold readValue
  rw [hs, skipSpace_of_not_isSpace hc]

/-! ## Deeper limits -/

theorem readItems_mono {item item' : List Char → Except Fault (Json × List Char)}
    (hitem : ∀ s x, item s = .ok x → item' s = .ok x) {fuel : Nat} {first : Bool} {s : List Char}
    {x : List Json × List Char} (h : readItems item fuel first s = .ok x) :
    readItems item' fuel first s = .ok x := by
  induction fuel generalizing first s x with
  | zero => cases h
  | succ fuel ih =>
    unfold readItems at h ⊢
    obtain ⟨⟨more, t⟩, hnext, hstep⟩ := bind_eq_ok.1 h
    refine bind_eq_ok.2 ⟨_, hnext, ?_⟩
    cases more with
    | false => exact hstep
    | true =>
      obtain ⟨⟨v, u⟩, hv, htail⟩ := bind_eq_ok.1 hstep
      obtain ⟨vs, hvs, hlast⟩ := bind_eq_ok.1 htail
      exact bind_eq_ok.2 ⟨_, hitem _ _ hv, bind_eq_ok.2 ⟨vs, ih hvs, hlast⟩⟩

theorem readMembers_mono {item item' : List Char → Except Fault (Json × List Char)}
    (hitem : ∀ s x, item s = .ok x → item' s = .ok x) {fuel : Nat} {first : Bool} {s : List Char}
    {x : List (String × Json) × List Char} (h : readMembers item fuel first s = .ok x) :
    readMembers item' fuel first s = .ok x := by
  induction fuel generalizing first s x with
  | zero => cases h
  | succ fuel ih =>
    unfold readMembers at h ⊢
    obtain ⟨⟨key, t⟩, hnext, hstep⟩ := bind_eq_ok.1 h
    refine bind_eq_ok.2 ⟨_, hnext, ?_⟩
    cases key with
    | none => exact hstep
    | some key =>
      obtain ⟨u, hcolon, hvalue⟩ := bind_eq_ok.1 hstep
      obtain ⟨⟨v, w⟩, hv, htail⟩ := bind_eq_ok.1 hvalue
      obtain ⟨ms, hms, hlast⟩ := bind_eq_ok.1 htail
      refine bind_eq_ok.2 ⟨u, hcolon, bind_eq_ok.2 ⟨_, hitem _ _ hv, ?_⟩⟩
      exact bind_eq_ok.2 ⟨ms, ih hms, hlast⟩

/-- A value that can be read can be read under every greater limit on nesting. -/
theorem readValue_of_le {d e : Nat} (hle : d ≤ e) {s : List Char} {x : Json × List Char}
    (h : readValue d s = .ok x) : readValue e s = .ok x := by
  induction d generalizing e s x with
  | zero =>
    unfold readValue at h ⊢
    split at h
    · cases h
    next c r _ =>
      by_cases hbracket : c = '['
      · subst hbracket
        cases h
      by_cases hbrace : c = '\x7b'
      · subst hbrace
        cases h
      rwa [if_neg hbracket, if_neg hbrace] at h ⊢
  | succ d ih =>
    obtain ⟨e, rfl⟩ : ∃ e', e = e' + 1 := ⟨e - 1, by omega⟩
    have hitem : ∀ s x, readValue d s = .ok x → readValue e s = .ok x :=
      fun _ _ => ih (Nat.le_of_succ_le_succ hle)
    unfold readValue at h ⊢
    split at h
    · cases h
    next c r _ =>
      by_cases hquote : c = '"'
      · rwa [if_pos hquote] at h ⊢
      rw [if_neg hquote] at h ⊢
      by_cases hbracket : c = '['
      · rw [if_pos hbracket] at h ⊢
        obtain ⟨vs, hvs, hlast⟩ := bind_eq_ok.1 h
        exact bind_eq_ok.2 ⟨vs, readItems_mono hitem hvs, hlast⟩
      rw [if_neg hbracket] at h ⊢
      by_cases hbrace : c = '\x7b'
      · rw [if_pos hbrace] at h ⊢
        obtain ⟨ms, hms, hlast⟩ := bind_eq_ok.1 h
        exact bind_eq_ok.2 ⟨ms, readMembers_mono hitem hms, hlast⟩
      rwa [if_neg hbrace] at h ⊢

/-! ## Values inside others -/

mutual

/-- A value and the values inside it, in the order in which a text opens them. -/
def values : Json → List Json
  | arr items => arr items :: valuesOfItems items
  | obj members => obj members :: valuesOfMembers members
  | v => [v]

/-- The items of an array and the values inside them. -/
def valuesOfItems : List Json → List Json
  | [] => []
  | v :: rest => values v ++ valuesOfItems rest

/-- The values of members and the values inside them. -/
def valuesOfMembers : List (String × Json) → List Json
  | [] => []
  | (_, v) :: rest => values v ++ valuesOfMembers rest

end

/-! ## The grammar -/

/-- What a piece of text spells: a value, or what is left of the items or the members of a
container. -/
inductive Part
  | value (v : Json)
  | items (vs : List Json)
  | members (ms : List (String × Json))

/-- The values inside a part. -/
def Part.values : Part → List Json
  | .value v => v.values
  | .items vs => valuesOfItems vs
  | .members ms => valuesOfMembers ms

/-- A value that is neither a string nor a container. -/
def IsScalar : Json → Prop
  | null | bool _ | num _ => True
  | str _ | arr _ | obj _ => False

/-- A part, a text that starts with it, and the text after it. -/
inductive Reads : Part → List Char → List Char → Prop
  | skip {part : Part} {c : Char} {s rest : List Char} (hc : isSpace c = true ∨ c = ',')
    (h : Reads part s rest) : Reads part (c :: s) rest
  | scalar {v : Json} {c : Char} {s rest : List Char} (hv : v.IsScalar)
    (hc : isScalarChar c = true) (ha : c ≠ 'a') (h : Scans (c :: s) rest) :
    Reads (.value v) (c :: s) rest
  | string {cs s rest : List Char} (h : Quoted cs s rest) :
    Reads (.value (.str (String.ofList cs))) ('"' :: s) rest
  | array {vs : List Json} {s rest : List Char} (h : Reads (.items vs) s rest) :
    Reads (.value (.arr vs)) ('[' :: s) rest
  | object {ms : List (String × Json)} {s rest : List Char}
    (hread : readValue nestingLimit ('\x7b' :: s) = .ok (.obj ms, rest))
    (h : Reads (.members ms) s rest) : Reads (.value (.obj ms)) ('\x7b' :: s) rest
  | endItems (rest : List Char) : Reads (.items []) (']' :: rest) rest
  | item {v : Json} {vs : List Json} {s t rest : List Char} (h : Reads (.value v) s t)
    (h' : Reads (.items vs) t rest) : Reads (.items (v :: vs)) s rest
  | endMembers (rest : List Char) : Reads (.members []) ('\x7d' :: rest) rest
  | member {key w s t u rest : List Char} {v : Json} {ms : List (String × Json)}
    (hkey : Quoted key s (w ++ ':' :: t)) (hw : ∀ c ∈ w, isSpace c = true)
    (h : Reads (.value v) t u) (h' : Reads (.members ms) u rest) :
    Reads (.members ((String.ofList key, v) :: ms)) ('"' :: s) rest

theorem Reads.suffix {part : Part} {s rest : List Char} (h : Reads part s rest) : rest <:+ s := by
  induction h with
  | skip _ _ ih => exact ih.trans (List.suffix_cons _ _)
  | scalar _ _ _ hscan => exact hscan.suffix
  | string hcs => exact hcs.suffix.trans (List.suffix_cons _ _)
  | array _ ih => exact ih.trans (List.suffix_cons _ _)
  | object _ _ ih => exact ih.trans (List.suffix_cons _ _)
  | endItems => exact List.suffix_cons _ _
  | endMembers => exact List.suffix_cons _ _
  | item _ _ ih ih' => exact ih'.trans ih
  | member hkey _ _ _ ih ih' =>
    refine ((ih'.trans ih).trans ?_).trans (hkey.suffix.trans (List.suffix_cons _ _))
    exact (List.suffix_cons _ _).trans (List.suffix_append _ _)

theorem isBetween_of_skip {c : Char} (h : isSpace c = true ∨ c = ',') : isBetween c = true := by
  rcases h with h | rfl
  · exact isBetween_of_isSpace h
  · decide

theorem Reads.of_skipSpace {part : Part} {s rest : List Char} (h : Reads part (skipSpace s) rest) :
    Reads part s rest := by
  induction s with
  | nil => exact h
  | cons c s ih =>
    by_cases hc : isSpace c = true
    · exact .skip (.inl hc) (ih (by rwa [skipSpace, List.dropWhile_cons_of_pos hc] at h))
    · rwa [skipSpace, List.dropWhile_cons_of_neg hc] at h

theorem eq_of_nextItem {first : Bool} {s t : List Char} (h : nextItem first s = .ok (false, t)) :
    skipSpace s = ']' :: t := by
  unfold nextItem at h
  split at h
  · cases h
  next c r hs =>
    repeat' split at h
    all_goals first | cases h; rw [hs]; congr | cases h

theorem Reads.of_nextItem {first : Bool} {s t rest : List Char} {part : Part}
    (hnext : nextItem first s = .ok (true, t)) (h : Reads part t rest) : Reads part s rest := by
  unfold nextItem at hnext
  split at hnext
  · cases hnext
  next c r hs =>
    refine .of_skipSpace (hs ▸ ?_)
    split at hnext
    · cases hnext
    split at hnext
    · cases hnext
      exact h
    split at hnext
    next hcomma =>
      split at hnext
      · cases hnext
      next d u hr =>
        split at hnext
        · cases hnext
        · cases hnext
          exact .skip (.inr hcomma) (.of_skipSpace (hr ▸ h))
    · cases hnext

theorem eq_of_nextKey {first : Bool} {s t : List Char} (h : nextKey first s = .ok (none, t)) :
    skipSpace s = '\x7d' :: t := by
  unfold nextKey at h
  split at h
  · cases h
  next c r hs =>
    split at h
    next hc =>
      cases h
      rw [hs, hc]
    · repeat' split at h
      all_goals first | (obtain ⟨x, -, hx⟩ := bind_eq_ok.1 h; cases hx) | cases h

/-- The key that is next, as it stands in the text. -/
theorem exists_of_nextKey {first : Bool} {s t : List Char} {key : String}
    (hnext : nextKey first s = .ok (some key, t)) :
    ∃ cs u, Quoted cs u t ∧ key = String.ofList cs ∧
      ∀ part rest, Reads part ('"' :: u) rest → Reads part s rest := by
  unfold nextKey at hnext
  split at hnext
  · cases hnext
  next c r hs =>
    split at hnext
    · cases hnext
    split at hnext
    · split at hnext
      next hquote =>
        obtain ⟨⟨key', t'⟩, hkey, hlast⟩ := bind_eq_ok.1 hnext
        cases hlast
        obtain ⟨cs, hcs, rfl⟩ := quoted_of_readString hkey
        exact ⟨cs, r, hcs, rfl, fun _ _ h => .of_skipSpace (hs ▸ hquote ▸ h)⟩
      · cases hnext
    split at hnext
    next hcomma =>
      split at hnext
      · cases hnext
      next d u hr =>
        split at hnext
        next hquote =>
          obtain ⟨⟨key', t'⟩, hkey, hlast⟩ := bind_eq_ok.1 hnext
          cases hlast
          obtain ⟨cs, hcs, rfl⟩ := quoted_of_readString hkey
          exact ⟨cs, u, hcs, rfl, fun _ _ h =>
            .of_skipSpace (hs ▸ .skip (.inr hcomma) (.of_skipSpace (hr ▸ hquote ▸ h)))⟩
        · split at hnext <;> cases hnext
    · cases hnext

theorem exists_of_readColon {s t : List Char} (h : readColon s = .ok t) :
    ∃ w, (∀ c ∈ w, isSpace c = true) ∧ s = w ++ ':' :: t := by
  obtain ⟨w, hw, hs⟩ := isSpace_dropWhile_append s
  unfold readColon at h
  split at h
  · cases h
  next c r hr =>
    split at h
    next hc =>
      cases h
      exact ⟨w, hw, by rw [hs, hr, hc]⟩
    · cases h

theorem reads_of_readItems {item : List Char → Except Fault (Json × List Char)}
    (hitem : ∀ s v t, item s = .ok (v, t) → Reads (.value v) s t) {fuel : Nat} {first : Bool}
    {s rest : List Char} {vs : List Json} (h : readItems item fuel first s = .ok (vs, rest)) :
    Reads (.items vs) s rest := by
  induction fuel generalizing first s vs with
  | zero => cases h
  | succ fuel ih =>
    unfold readItems at h
    obtain ⟨⟨more, t⟩, hnext, hstep⟩ := bind_eq_ok.1 h
    cases more with
    | false =>
      cases hstep
      exact .of_skipSpace (eq_of_nextItem hnext ▸ .endItems rest)
    | true =>
      obtain ⟨⟨v, u⟩, hv, htail⟩ := bind_eq_ok.1 hstep
      obtain ⟨⟨vs', u'⟩, hvs, hlast⟩ := bind_eq_ok.1 htail
      cases hlast
      exact .of_nextItem hnext (.item (hitem _ _ _ hv) (ih hvs))

theorem reads_of_readMembers {item : List Char → Except Fault (Json × List Char)}
    (hitem : ∀ s v t, item s = .ok (v, t) → Reads (.value v) s t) {fuel : Nat} {first : Bool}
    {s rest : List Char} {ms : List (String × Json)}
    (h : readMembers item fuel first s = .ok (ms, rest)) : Reads (.members ms) s rest := by
  induction fuel generalizing first s ms with
  | zero => cases h
  | succ fuel ih =>
    unfold readMembers at h
    obtain ⟨⟨key, t⟩, hnext, hstep⟩ := bind_eq_ok.1 h
    cases key with
    | none =>
      cases hstep
      exact .of_skipSpace (eq_of_nextKey hnext ▸ .endMembers rest)
    | some key =>
      obtain ⟨u, hcolon, hvalue⟩ := bind_eq_ok.1 hstep
      obtain ⟨⟨v, w⟩, hv, htail⟩ := bind_eq_ok.1 hvalue
      obtain ⟨⟨ms', w'⟩, hms, hlast⟩ := bind_eq_ok.1 htail
      cases hlast
      obtain ⟨cs, r, hcs, rfl, hlift⟩ := exists_of_nextKey hnext
      obtain ⟨blanks, hblanks, rfl⟩ := exists_of_readColon hcolon
      exact hlift _ _ (.member hcs hblanks (hitem _ _ _ hv) (ih hms))

theorem reads_of_readWord {v : Json} {c : Char} {word s rest : List Char} (hv : v.IsScalar)
    (hc : isScalarChar c = true) (ha : c ≠ 'a') (hword : word.all isScalarChar = true)
    (h : readWord word s = .ok rest) : Reads (.value v) (c :: s) rest :=
  .scalar hv hc ha (.char hc (scans_of_readWord (List.all_eq_true.1 hword) h))

/-- What the reader accepts is in the grammar. -/
theorem reads_of_readValue {d : Nat} (hd : d ≤ nestingLimit) {s rest : List Char} {v : Json}
    (h : readValue d s = .ok (v, rest)) : Reads (.value v) s rest := by
  induction d using Nat.strongRecOn generalizing s v rest with
  | ind d ih =>
    have hall := h
    unfold readValue at h
    split at h
    · cases h
    next c r hs =>
      refine .of_skipSpace (hs ▸ ?_)
      by_cases hquote : c = '"'
      · rw [if_pos hquote] at h
        obtain ⟨⟨text, t⟩, htext, hlast⟩ := bind_eq_ok.1 h
        cases hlast
        obtain ⟨cs, hcs, rfl⟩ := quoted_of_readString htext
        exact hquote ▸ .string hcs
      rw [if_neg hquote] at h
      by_cases hbracket : c = '['
      · subst hbracket
        rw [if_pos rfl] at h
        cases d with
        | zero => cases h
        | succ d =>
          obtain ⟨⟨vs, t⟩, hvs, hlast⟩ := bind_eq_ok.1 h
          cases hlast
          exact .array (reads_of_readItems (fun _ _ _ => ih d (by omega) (by omega)) hvs)
      rw [if_neg hbracket] at h
      by_cases hbrace : c = '\x7b'
      · subst hbrace
        rw [if_pos rfl] at h
        cases d with
        | zero => cases h
        | succ d =>
          obtain ⟨⟨ms, t⟩, hms, hlast⟩ := bind_eq_ok.1 h
          cases hlast
          rw [readValue_of_skipSpace hs (by decide)] at hall
          exact .object (readValue_of_le hd hall)
            (reads_of_readMembers (fun _ _ _ => ih d (by omega) (by omega)) hms)
      rw [if_neg hbrace] at h
      -- the three words
      iterate 3
        split at h
        next hn =>
          obtain ⟨t, ht, hlast⟩ := bind_eq_ok.1 h
          cases hlast
          subst hn
          exact reads_of_readWord trivial (by decide) (by decide) (by decide) ht
      split at h
      next hn =>
        obtain ⟨⟨n, t⟩, ht, hlast⟩ := bind_eq_ok.1 h
        cases hlast
        refine .scalar trivial ?_ ?_ (scans_of_readNumber ht)
        · rcases hn with rfl | hdigit
          · decide
          · exact isScalarChar_of_isDigit hdigit
        · rintro rfl
          rcases hn with hn | hn <;> revert hn <;> decide
      · cases h

end TestReport.Json
