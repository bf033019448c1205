import TestReport.Proofs.Grammar

/-!
# What follows a value

A reader takes a value off the front of a text, and other text may follow. What follows has no
influence on the value (`readValue_append`), so that an object between lines of a log is read as if
it stood alone.

A number is the exception, as it ends where its digits do: text that follows may go on with them.
Inside a container that cannot happen, since a bracket, a brace or a comma stands behind every item.
So the lemmas on numbers ask for some text behind the number, and the loops over items and members
show that there is some.

The loops run on a count that the length of the text gives, which grows with the text. Hence they
are followed under every greater count.
-/

namespace TestReport.Json

/-! ## Spans -/

section Span

variable {p : Char → Bool} {s : List Char}

theorem dropWhile_append_of_ne_nil (h : s.dropWhile p ≠ []) (after : List Char) :
    (s ++ after).dropWhile p = s.dropWhile p ++ after := by
  rw [List.dropWhile_append, if_neg (by simpa using h)]

theorem takeWhile_append_of_ne_nil (h : s.dropWhile p ≠ []) (after : List Char) :
    (s ++ after).takeWhile p = s.takeWhile p := by
  rw [List.takeWhile_append, if_neg]
  intro hall
  have hsplit := congrArg List.length (List.takeWhile_append_dropWhile (p := p) (l := s))
  rw [List.length_append, hall] at hsplit
  exact h (List.length_eq_zero_iff.1 (by omega))

end Span

theorem skipSpace_append {s r : List Char} {c : Char} (h : skipSpace s = c :: r)
    (after : List Char) : skipSpace (s ++ after) = c :: (r ++ after) := by
  have hne : s.dropWhile isSpace ≠ [] := by
    show skipSpace s ≠ []
    rw [h]
    exact List.cons_ne_nil _ _
  rw [skipSpace, dropWhile_append_of_ne_nil hne]
  exact congrArg (· ++ after) h

/-! ## Words -/

theorem readWord_append {word s t : List Char} (h : readWord word s = .ok t) (after : List Char) :
    readWord word (s ++ after) = .ok (t ++ after) := by
  induction word generalizing s with
  | nil =>
    cases h
    rfl
  | cons w word ih =>
    cases s with
    | nil => cases h
    | cons c s =>
      unfold readWord at h
      rw [List.cons_append, readWord]
      split at h
      next hc => rw [if_pos hc, ih h]
      · cases h

/-! ## Strings -/

theorem readHexWord_append {s t : List Char} {n : Nat} (h : readHexWord s = .ok (n, t))
    (after : List Char) : readHexWord (s ++ after) = .ok (n, t ++ after) := by
  obtain ⟨digits, rfl, hlength, hdigits⟩ := exists_of_readHexWord h
  have htake : ∀ u : List Char, (digits ++ u).take 4 = digits :=
    fun u => by rw [← hlength, List.take_left]
  have hdrop : ∀ u : List Char, (digits ++ u).drop 4 = u :=
    fun u => by rw [← hlength, List.drop_left]
  rw [List.append_assoc, readHexWord, htake, hdrop, hdigits]
  exact if_pos hlength

theorem readPairMark_append {c : Char} {s t : List Char} (h : readPairMark c s = .ok t)
    (after : List Char) : readPairMark c (s ++ after) = .ok (t ++ after) := by
  obtain rfl := exists_of_readPairMark h
  exact if_pos rfl

theorem readCodePoint_append {s t : List Char} {c : Char} (h : readCodePoint s = .ok (c, t))
    (after : List Char) : readCodePoint (s ++ after) = .ok (c, t ++ after) := by
  unfold readCodePoint at h ⊢
  obtain ⟨⟨n, s₁⟩, hfirst, hcode⟩ := bind_eq_ok.1 h
  refine bind_eq_ok.2 ⟨_, readHexWord_append hfirst after, ?_⟩
  dsimp only at hcode ⊢
  split at hcode
  · cases hcode
  next hlow =>
    rw [if_neg hlow]
    split at hcode
    next hhigh =>
      rw [if_pos hhigh]
      obtain ⟨s₂, hslash, hcode⟩ := bind_eq_ok.1 hcode
      obtain ⟨s₃, hmark, hcode⟩ := bind_eq_ok.1 hcode
      obtain ⟨⟨m, s₄⟩, hsecond, hcode⟩ := bind_eq_ok.1 hcode
      refine bind_eq_ok.2 ⟨_, readPairMark_append hslash after, ?_⟩
      refine bind_eq_ok.2 ⟨_, readPairMark_append hmark after, ?_⟩
      refine bind_eq_ok.2 ⟨_, readHexWord_append hsecond after, ?_⟩
      dsimp only at hcode ⊢
      split at hcode
      next hpair =>
        obtain ⟨rfl, rfl⟩ := Prod.mk.inj (Except.ok.inj hcode)
        exact if_pos hpair
      · cases hcode
    next hhigh =>
      obtain ⟨rfl, rfl⟩ := Prod.mk.inj (Except.ok.inj hcode)
      exact if_neg hhigh

theorem readEscape_append {s t : List Char} {c : Char} (h : readEscape s = .ok (c, t))
    (after : List Char) : readEscape (s ++ after) = .ok (c, t ++ after) := by
  cases s with
  | nil => cases h
  | cons d s =>
    rw [List.cons_append]
    unfold readEscape at h ⊢
    dsimp only at h ⊢
    split at h
    next hu => rw [if_pos hu, readCodePoint_append h]
    next hu =>
      rw [if_neg hu]
      repeat' split at h
      all_goals first | (cases h; simp [*]) | cases h

theorem readUnit_append {s t : List Char} {u : Option Char} (h : readUnit s = .ok (u, t))
    (after : List Char) : readUnit (s ++ after) = .ok (u, t ++ after) := by
  cases s with
  | nil => cases h
  | cons c s =>
    rw [List.cons_append]
    unfold readUnit at h ⊢
    dsimp only at h ⊢
    split at h
    next hquote =>
      cases h
      rw [if_pos hquote]
    next hquote =>
      rw [if_neg hquote]
      split at h
      next hslash =>
        rw [if_pos hslash]
        obtain ⟨⟨d, r⟩, hescape, hlast⟩ := bind_eq_ok.1 h
        cases hlast
        exact bind_eq_ok.2 ⟨_, readEscape_append hescape after, rfl⟩
      next hslash =>
        rw [if_neg hslash]
        split at h
        · cases h
        next hcontrol =>
          cases h
          rw [if_neg hcontrol]

theorem readChars_append {fuel fuel' : Nat} (hle : fuel ≤ fuel') {s t cs : List Char}
    (h : readChars fuel s = .ok (cs, t)) (after : List Char) :
    readChars fuel' (s ++ after) = .ok (cs, t ++ after) := by
  induction fuel generalizing fuel' s cs with
  | zero => cases h
  | succ fuel ih =>
    obtain ⟨fuel', rfl⟩ : ∃ n, fuel' = n + 1 := ⟨fuel' - 1, by omega⟩
    unfold readChars at h ⊢
    obtain ⟨⟨u, s₁⟩, hunit, hnext⟩ := bind_eq_ok.1 h
    refine bind_eq_ok.2 ⟨_, readUnit_append hunit after, ?_⟩
    cases u with
    | none =>
      cases hnext
      rfl
    | some c =>
      obtain ⟨⟨cs', s₂⟩, hrest, hlast⟩ := bind_eq_ok.1 hnext
      cases hlast
      exact bind_eq_ok.2 ⟨_, ih (Nat.le_of_succ_le_succ hle) hrest, rfl⟩

theorem readString_append {s t : List Char} {text : String} (h : readString s = .ok (text, t))
    (after : List Char) : readString (s ++ after) = .ok (text, t ++ after) := by
  unfold readString at h ⊢
  obtain ⟨⟨cs, s₁⟩, hchars, hlast⟩ := bind_eq_ok.1 h
  cases hlast
  have hle : s.length + 1 ≤ (s ++ after).length + 1 := by simp
  exact bind_eq_ok.2 ⟨_, readChars_append hle hchars after, rfl⟩

/-! ## Numbers -/

section Number

variable {negative : Bool} {significand : Nat} {e : Int} {s t : List Char} {n : Number}

theorem makeFloat_append (h : makeFloat negative significand e s = .ok (n, t))
    (after : List Char) : makeFloat negative significand e (s ++ after) = .ok (n, t ++ after) := by
  unfold makeFloat at h ⊢
  split at h
  next x hx =>
    obtain ⟨rfl, rfl⟩ := Prod.mk.inj (Except.ok.inj h)
    rfl
  · cases h

theorem readExponent_append (h : readExponent negative significand e s = .ok (n, t)) (ht : t ≠ [])
    (after : List Char) :
    readExponent negative significand e (s ++ after) = .ok (n, t ++ after) := by
  unfold readExponent at h ⊢
  split at h
  next minus r hsign =>
    split
    next minus' r' hsign' =>
      have hsame : minus' = minus ∧ r' = r ++ after := by
        cases s with
        | nil =>
          cases hsign
          cases h
        | cons c s =>
          clear h
          rw [List.cons_append] at hsign'
          split at hsign <;> obtain ⟨rfl, rfl⟩ := Prod.mk.inj hsign <;> split at hsign' <;>
            simp_all
      obtain ⟨rfl, rfl⟩ := hsame
      cases r with
      | nil => cases h
      | cons c r =>
        rw [List.cons_append]
        dsimp only at h ⊢
        split at h
        · cases h
        next hdigit =>
          rw [if_neg hdigit]
          have hrest : (c :: r).dropWhile Char.isDigit ≠ [] := by
            intro hnil
            rw [hnil] at h
            split at h
            · exact ht (eq_of_makeFloat h).symm
            · split at h
              · cases h
              · exact ht (Prod.mk.inj (Except.ok.inj h)).2.symm
          rw [← List.cons_append, takeWhile_append_of_ne_nil hrest,
            dropWhile_append_of_ne_nil hrest]
          split at h
          next k hk =>
            exact makeFloat_append h after
          next k d left hk =>
            split at h
            · cases h
            next hrange =>
              rw [if_neg hrange]
              obtain ⟨rfl, rfl⟩ := Prod.mk.inj (Except.ok.inj h)
              rfl

theorem readTail_append (h : readTail negative significand e s = .ok (n, t)) (ht : t ≠ [])
    (after : List Char) :
    readTail negative significand e (s ++ after) = .ok (n, t ++ after) := by
  unfold readTail at h
  cases s with
  | nil => exact absurd (eq_of_makeFloat h).symm ht
  | cons c s =>
    rw [List.cons_append, readTail]
    dsimp only at h ⊢
    split at h
    next hexponent => rw [if_pos hexponent, readExponent_append h ht]
    next hexponent => rw [if_neg hexponent, ← List.cons_append, makeFloat_append h]

theorem readFraction_append (h : readFraction negative significand e s = .ok (n, t)) (ht : t ≠ [])
    (after : List Char) :
    readFraction negative significand e (s ++ after) = .ok (n, t ++ after) := by
  unfold readFraction at h ⊢
  dsimp only at h ⊢
  split at h
  · split at h <;> cases h
  next hdigits =>
    have hrest : s.dropWhile Char.isDigit ≠ [] := by
      intro hnil
      rw [hnil] at h
      exact ht (List.suffix_nil.1 (scans_of_readTail h).suffix)
    rw [takeWhile_append_of_ne_nil hrest, dropWhile_append_of_ne_nil hrest, if_neg hdigits]
    exact readTail_append h ht after

theorem readNumber_append (h : readNumber s = .ok (n, t)) (ht : t ≠ []) (after : List Char) :
    readNumber (s ++ after) = .ok (n, t ++ after) := by
  unfold readNumber at h ⊢
  split at h
  next negative r hsign =>
    split
    next negative' r' hsign' =>
      have hsame : negative' = negative ∧ r' = r ++ after := by
        cases s with
        | nil =>
          cases hsign
          cases h
        | cons c s =>
          clear h
          rw [List.cons_append] at hsign'
          split at hsign <;> obtain ⟨rfl, rfl⟩ := Prod.mk.inj hsign <;> split at hsign' <;>
            simp_all
      obtain ⟨rfl, rfl⟩ := hsame
      cases r with
      | nil => cases h
      | cons c r =>
        rw [List.cons_append]
        dsimp only at h ⊢
        split at h
        · cases h
        next hdigit =>
          split at h
          · cases h
          next hzero =>
            have hrest : (c :: r).dropWhile Char.isDigit ≠ [] := by
              intro hnil
              rw [hnil] at h
              dsimp only at h
              split at h
              · exact ht (Prod.mk.inj (Except.ok.inj h)).2.symm
              · exact ht (List.suffix_nil.1 (scans_of_readTail h).suffix)
            rw [if_neg hdigit, ← List.cons_append, takeWhile_append_of_ne_nil hrest,
              dropWhile_append_of_ne_nil hrest, if_neg hzero]
            obtain ⟨d, u, hrest'⟩ := List.exists_cons_of_ne_nil hrest
            rw [hrest'] at h
            rw [hrest', List.cons_append]
            by_cases hpoint : d = '.'
            · subst hpoint
              exact readFraction_append h ht after
            · split at h
              next heq => exact absurd (List.cons.inj heq).1 hpoint
              split
              next heq => exact absurd (List.cons.inj heq).1 hpoint
              split at h
              next hinteger =>
                obtain ⟨rfl, rfl⟩ := Prod.mk.inj (Except.ok.inj h)
                exact if_pos hinteger
              next hinteger =>
                exact (if_neg hinteger).trans (readTail_append h ht after)

end Number

/-! ## Containers -/

theorem nextItem_append {first more : Bool} {s t : List Char}
    (h : nextItem first s = .ok (more, t)) (after : List Char) :
    nextItem first (s ++ after) = .ok (more, t ++ after) := by
  unfold nextItem at h ⊢
  split at h
  · cases h
  next c r hs =>
    rw [skipSpace_append hs]
    dsimp only
    split at h
    next hclose =>
      cases h
      rw [if_pos hclose]
    next hclose =>
      rw [if_neg hclose]
      split at h
      next hfirst =>
        cases h
        rw [if_pos hfirst]
        rfl
      next hfirst =>
        rw [if_neg hfirst]
        split at h
        next hcomma =>
          rw [if_pos hcomma]
          split at h
          · cases h
          next d u hr =>
            rw [skipSpace_append hr]
            dsimp only
            split at h
            · cases h
            next hd =>
              cases h
              rw [if_neg hd]
              rfl
        · cases h

theorem nextKey_append {first : Bool} {s t : List Char} {key : Option String}
    (h : nextKey first s = .ok (key, t)) (after : List Char) :
    nextKey first (s ++ after) = .ok (key, t ++ after) := by
  have hstring : ∀ r : List Char,
      (readString r >>= fun x => Except.ok (some x.1, x.2)) = .ok (key, t) →
      (readString (r ++ after) >>= fun x => Except.ok (some x.1, x.2)) = .ok (key, t ++ after) := by
    intro r h
    obtain ⟨⟨key', t'⟩, hkey, hlast⟩ := bind_eq_ok.1 h
    cases hlast
    exact bind_eq_ok.2 ⟨_, readString_append hkey after, rfl⟩
  unfold nextKey at h ⊢
  split at h
  · cases h
  next c r hs =>
    rw [skipSpace_append hs]
    dsimp only
    split at h
    next hclose =>
      cases h
      rw [if_pos hclose]
    next hclose =>
      rw [if_neg hclose]
      split at h
      next hfirst =>
        rw [if_pos hfirst]
        split at h
        next hquote =>
          rw [if_pos hquote]
          exact hstring r h
        · cases h
      next hfirst =>
        rw [if_neg hfirst]
        split at h
        next hcomma =>
          rw [if_pos hcomma]
          split at h
          · cases h
          next d u hr =>
            rw [skipSpace_append hr]
            dsimp only
            split at h
            next hquote =>
              rw [if_pos hquote]
              exact hstring u h
            · split at h <;> cases h
        · cases h

theorem readColon_append {s t : List Char} (h : readColon s = .ok t) (after : List Char) :
    readColon (s ++ after) = .ok (t ++ after) := by
  unfold readColon at h ⊢
  split at h
  · cases h
  next c r hs =>
    rw [skipSpace_append hs]
    dsimp only
    split at h
    next hc =>
      cases h
      rw [if_pos hc]
    · cases h

section Loop

variable {item : List Char → Except Fault (Json × List Char)} {after : List Char}
  (hitem : ∀ s v t, item s = .ok (v, t) → t ≠ [] → item (s ++ after) = .ok (v, t ++ after))

include hitem

theorem readItems_append {fuel fuel' : Nat} (hle : fuel ≤ fuel') {first : Bool}
    {s t : List Char} {vs : List Json} (h : readItems item fuel first s = .ok (vs, t)) :
    readItems item fuel' first (s ++ after) = .ok (vs, t ++ after) := by
  induction fuel generalizing fuel' first s vs with
  | zero => cases h
  | succ fuel ih =>
    obtain ⟨fuel', rfl⟩ : ∃ n, fuel' = n + 1 := ⟨fuel' - 1, by omega⟩
    unfold readItems at h ⊢
    obtain ⟨⟨more, s₁⟩, hnext, hstep⟩ := bind_eq_ok.1 h
    refine bind_eq_ok.2 ⟨_, nextItem_append hnext after, ?_⟩
    cases more with
    | false =>
      cases hstep
      rfl
    | true =>
      obtain ⟨⟨v, s₂⟩, hv, htail⟩ := bind_eq_ok.1 hstep
      obtain ⟨⟨vs', s₃⟩, hvs, hlast⟩ := bind_eq_ok.1 htail
      cases hlast
      have hne : s₂ ≠ [] := by
        rintro rfl
        cases fuel <;> cases hvs
      exact bind_eq_ok.2 ⟨_, hitem _ _ _ hv hne,
        bind_eq_ok.2 ⟨_, ih (Nat.le_of_succ_le_succ hle) hvs, rfl⟩⟩

theorem readMembers_append {fuel fuel' : Nat} (hle : fuel ≤ fuel') {first : Bool}
    {s t : List Char} {ms : List (String × Json)}
    (h : readMembers item fuel first s = .ok (ms, t)) :
    readMembers item fuel' first (s ++ after) = .ok (ms, t ++ after) := by
  induction fuel generalizing fuel' first s ms with
  | zero => cases h
  | succ fuel ih =>
    obtain ⟨fuel', rfl⟩ : ∃ n, fuel' = n + 1 := ⟨fuel' - 1, by omega⟩
    unfold readMembers at h ⊢
    obtain ⟨⟨key, s₁⟩, hnext, hstep⟩ := bind_eq_ok.1 h
    refine bind_eq_ok.2 ⟨_, nextKey_append hnext after, ?_⟩
    cases key with
    | none =>
      cases hstep
      rfl
    | some key =>
      obtain ⟨s₂, hcolon, hvalue⟩ := bind_eq_ok.1 hstep
      obtain ⟨⟨v, s₃⟩, hv, htail⟩ := bind_eq_ok.1 hvalue
      obtain ⟨⟨ms', s₄⟩, hms, hlast⟩ := bind_eq_ok.1 htail
      cases hlast
      have hne : s₃ ≠ [] := by
        rintro rfl
        cases fuel <;> cases hms
      refine bind_eq_ok.2 ⟨_, readColon_append hcolon after, ?_⟩
      exact bind_eq_ok.2 ⟨_, hitem _ _ _ hv hne,
        bind_eq_ok.2 ⟨_, ih (Nat.le_of_succ_le_succ hle) hms, rfl⟩⟩

end Loop

/-! ## Values -/

/-- A value is read the same whatever follows it, unless it is a number at the end of the text. -/
theorem readValue_append {d : Nat} {s t : List Char} {v : Json} (h : readValue d s = .ok (v, t))
    (hend : t ≠ [] ∨ ∀ n, v ≠ .num n) (after : List Char) :
    readValue d (s ++ after) = .ok (v, t ++ after) := by
  induction d using Nat.strongRecOn generalizing s v t with
  | ind d ih =>
    unfold readValue at h ⊢
    split at h
    · cases h
    next c r hs =>
      have hle : r.length + 1 ≤ (r ++ after).length + 1 := by simp
      have hword : ∀ (word : List Char) (w : Json),
          (do let t ← readWord word r; return (w, t)) = Except.ok (v, t) →
          (do let t ← readWord word (r ++ after); return (w, t)) = Except.ok (v, t ++ after) := by
        intro word w h
        obtain ⟨u, hu, hlast⟩ := bind_eq_ok.1 h
        cases hlast
        exact bind_eq_ok.2 ⟨_, readWord_append hu after, rfl⟩
      rw [skipSpace_append hs]
      dsimp only
      by_cases hquote : c = '"'
      · rw [if_pos hquote] at h ⊢
        obtain ⟨⟨text, u⟩, htext, hlast⟩ := bind_eq_ok.1 h
        cases hlast
        exact bind_eq_ok.2 ⟨_, readString_append htext after, rfl⟩
      rw [if_neg hquote] at h ⊢
      by_cases hbracket : c = '['
      · rw [if_pos hbracket] at h ⊢
        cases d with
        | zero => cases h
        | succ d =>
          obtain ⟨⟨vs, u⟩, hvs, hlast⟩ := bind_eq_ok.1 h
          cases hlast
          have hitem : ∀ s v t, readValue d s = .ok (v, t) → t ≠ [] →
              readValue d (s ++ after) = .ok (v, t ++ after) :=
            fun s v t h ht => ih d (Nat.lt_succ_self d) h (Or.inl ht)
          exact bind_eq_ok.2 ⟨_, readItems_append hitem hle hvs, rfl⟩
      rw [if_neg hbracket] at h ⊢
      by_cases hbrace : c = '\x7b'
      · rw [if_pos hbrace] at h ⊢
        cases d with
        | zero => cases h
        | succ d =>
          obtain ⟨⟨ms, u⟩, hms, hlast⟩ := bind_eq_ok.1 h
          cases hlast
          have hitem : ∀ s v t, readValue d s = .ok (v, t) → t ≠ [] →
              readValue d (s ++ after) = .ok (v, t ++ after) :=
            fun s v t h ht => ih d (Nat.lt_succ_self d) h (Or.inl ht)
          exact bind_eq_ok.2 ⟨_, readMembers_append hitem hle hms, rfl⟩
      rw [if_neg hbrace] at h ⊢
      by_cases hnull : c = 'n'
      · rw [if_pos hnull] at h ⊢
        exact hword _ _ h
      rw [if_neg hnull] at h ⊢
      by_cases htrue : c = 't'
      · rw [if_pos htrue] at h ⊢
        exact hword _ _ h
      rw [if_neg htrue] at h ⊢
      by_cases hfalse : c = 'f'
      · rw [if_pos hfalse] at h ⊢
        exact hword _ _ h
      rw [if_neg hfalse] at h ⊢
      split at h
      next hnumber =>
        rw [if_pos hnumber]
        obtain ⟨⟨n, u⟩, hu, hlast⟩ := bind_eq_ok.1 h
        cases hlast
        have ht : t ≠ [] := hend.resolve_right fun hnum => hnum n rfl
        exact bind_eq_ok.2 ⟨_, readNumber_append hu ht after, rfl⟩
      · cases h

end TestReport.Json
