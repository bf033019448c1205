import TestReport.Proofs.Phases
import TestReport.Extract
import Mathlib.Data.List.Basic

/-!
# Marks and keys

What the search for a report goes by: where a mark stands (`StartsWithMark`), that the last mark is
found when there is one, and which braces stand before it. In accepted text a mark can only be a
key, or the end of a key that has a quote in it (`Reads.mark`). A value is no mark, as no colon
follows it; and a mark cannot start at the quote that closes a string, as its marker would come
right after the string. The other way round, a key is a mark if its letters are not written as
escapes (`Reads.mark_of_mem_keys`).
-/

namespace TestReport

/-! ## Marks -/

/-- A marker in quotes, then blanks and a colon. -/
def StartsWithMark (marker : String) (s : List Char) : Prop :=
  ∃ blanks after, (∀ c ∈ blanks, Text.isBlank c = true) ∧
    s = '"' :: (marker.toList ++ '"' :: (blanks ++ ':' :: after))

/-- The number of characters of a mark. -/
theorem markLength?_of_startsWithMark {marker : String} {blanks after : List Char}
    (hblanks : ∀ c ∈ blanks, Text.isBlank c = true) :
    markLength? marker ('"' :: (marker.toList ++ '"' :: (blanks ++ ':' :: after))) =
      some ((marker.toList ++ '"' :: (blanks ++ [':'])).length + 1) := by
  have hkey : '"' :: (marker.toList ++ '"' :: (blanks ++ ':' :: after)) =
      ('"' :: marker.toList ++ ['"']) ++ (blanks ++ ':' :: after) := by simp
  unfold markLength?
  simp only
  rw [hkey, if_pos (List.isPrefixOf_iff_prefix.2 (List.prefix_append _ _)), List.drop_left,
    List.dropWhile_append_of_pos hblanks, List.dropWhile_cons_of_neg (by decide),
    List.takeWhile_append_of_pos hblanks, List.takeWhile_cons_of_neg (by decide)]
  simp
  omega

theorem isSome_markLength?_iff {marker : String} {s : List Char} :
    (markLength? marker s).isSome = true ↔ StartsWithMark marker s := by
  constructor
  · intro h
    unfold markLength? at h
    simp only at h
    split at h
    next hkey =>
      obtain ⟨rest, rfl⟩ := List.isPrefixOf_iff_prefix.1 hkey
      rw [List.drop_left] at h
      split at h
      next after hafter =>
        refine ⟨rest.takeWhile Text.isBlank, after, List.all_eq_true.1 List.all_takeWhile, ?_⟩
        rw [← hafter, List.takeWhile_append_dropWhile]
        simp
      · cases h
    · cases h
  · rintro ⟨blanks, after, hblanks, rfl⟩
    rw [markLength?_of_startsWithMark hblanks]
    rfl

theorem exists_of_lastMark? {marker : String} {skip n : Nat} {s : List Char}
    (h : lastMark? marker skip s = some n) : ∃ t, t <:+ s ∧ StartsWithMark marker t := by
  induction s generalizing skip n with
  | nil => cases h
  | cons c s ih =>
    have hbehind : ∀ skip n, lastMark? marker skip s = some n →
        ∃ t, t <:+ c :: s ∧ StartsWithMark marker t := by
      intro skip n h
      obtain ⟨t, ht, hmark⟩ := ih h
      exact ⟨t, List.suffix_cons_iff.2 (.inr ht), hmark⟩
    unfold lastMark? at h
    cases skip with
    | succ skip =>
      obtain ⟨m, hm, -⟩ := Option.map_eq_some_iff.1 h
      exact hbehind _ _ hm
    | zero =>
      dsimp only at h
      split at h
      next k hk => exact ⟨_, List.suffix_refl _, isSome_markLength?_iff.1 (by rw [hk]; rfl)⟩
      next =>
        obtain ⟨m, hm, -⟩ := Option.map_eq_some_iff.1 h
        exact hbehind _ _ hm

theorem isSome_lastMark? {marker : String} {s t : List Char} (ht : t <:+ s)
    (hmark : StartsWithMark marker t) : (lastMark? marker 0 s).isSome = true := by
  induction s with
  | nil =>
    obtain rfl := List.suffix_nil.1 ht
    obtain ⟨_, _, _, heq⟩ := hmark
    cases heq
  | cons c s ih =>
    unfold lastMark?
    dsimp only
    split
    · rfl
    next hnone =>
      have hne : t ≠ c :: s := by
        rintro rfl
        have hsome := isSome_markLength?_iff.2 hmark
        rw [hnone] at hsome
        cases hsome
      rw [Option.isSome_map]
      exact ih ((List.suffix_cons_iff.1 ht).resolve_left hne)

theorem lastMark?_append {marker : String} {run : List Char} (hrun : ∀ c ∈ run, c ≠ '"')
    (s : List Char) :
    lastMark? marker 0 (run ++ s) = (lastMark? marker 0 s).map (· + run.length) := by
  induction run with
  | nil => simp
  | cons c run ih =>
    obtain ⟨hc, hrun⟩ := List.forall_mem_cons.1 hrun
    have hnone : markLength? marker (c :: (run ++ s)) = none := by
      refine Option.not_isSome_iff_eq_none.1 fun hsome => ?_
      obtain ⟨_, _, _, heq⟩ := isSome_markLength?_iff.1 hsome
      exact hc (List.cons.inj heq).1
    rw [List.cons_append, lastMark?, hnone]
    dsimp only
    rw [ih hrun, Option.map_map]
    congr 1

theorem lastMark?_length_append (marker : String) (run s : List Char) :
    lastMark? marker run.length (run ++ s) = (lastMark? marker 0 s).map (· + run.length) := by
  induction run with
  | nil => simp
  | cons c run ih =>
    rw [List.length_cons, List.cons_append, lastMark?, ih, Option.map_map]
    congr 1

section Marker

variable {marker : String} (hmarker : ∀ c ∈ marker.toList, c.isLower = true)
  (ha : marker.toList.head? = some 'a')

include hmarker ha

/-- Marks do not overlap. -/
theorem suffix_after_mark {blanks after t : List Char}
    (hblanks : ∀ c ∈ blanks, Text.isBlank c = true) (hmark : StartsWithMark marker t)
    (ht : t <:+ marker.toList ++ '"' :: (blanks ++ ':' :: after)) : t <:+ after := by
  obtain ⟨blanks', after', hblanks', rfl⟩ := hmark
  have hname : ∀ c ∈ marker.toList, c ≠ '"' := fun c hc => (Json.ne_of_isLower (hmarker c hc)).1
  have hbehind := Json.suffix_of_suffix_append hname ht
  obtain ⟨letters, hletters⟩ : ∃ letters, marker.toList = 'a' :: letters := by
    cases hm : marker.toList with
    | nil => rw [hm] at ha; cases ha
    | cons c letters =>
      rw [hm] at ha
      exact ⟨letters, by rw [Option.some.inj ha]⟩
  rcases List.suffix_cons_iff.1 hbehind with heq | hbehind
  · -- after the quote that closes a mark there is no marker
    have hhead := (List.cons.inj heq).2
    rw [hletters] at hhead
    cases blanks with
    | nil => cases hhead
    | cons c blanks =>
      obtain ⟨rfl, -⟩ := List.cons.inj hhead
      exact absurd (hblanks 'a' List.mem_cons_self) (by decide)
  · have hquote : ∀ c ∈ blanks, c ≠ '"' := by
      rintro c hc rfl
      exact absurd (hblanks _ hc) (by decide)
    exact Json.suffix_of_suffix_cons (by decide) (Json.suffix_of_suffix_append hquote hbehind)

/-- No mark comes after the last one. -/
theorem length_le_of_lastMark? {s t : List Char} {n : Nat} (hlast : lastMark? marker 0 s = some n)
    (ht : t <:+ s) (hmark : StartsWithMark marker t) : s.length ≤ n + t.length := by
  induction hlength : s.length using Nat.strongRecOn generalizing s n with
  | ind length ih =>
    subst hlength
    cases s with
    | nil => simp
    | cons c s =>
      rcases List.suffix_cons_iff.1 ht with rfl | hbehind
      · omega
      rw [lastMark?] at hlast
      cases hfirst : markLength? marker (c :: s) with
      | none =>
        rw [hfirst] at hlast
        obtain ⟨m, hm, rfl⟩ := Option.map_eq_some_iff.1 hlast
        have hle := ih s.length (by simp) hm hbehind rfl
        rw [List.length_cons]
        omega
      | some k =>
        have hsome : (markLength? marker (c :: s)).isSome = true := by
          rw [hfirst]
          rfl
        obtain ⟨blanks, after, hblanks, heq⟩ := isSome_markLength?_iff.1 hsome
        obtain ⟨rfl, rfl⟩ := List.cons.inj heq
        have hafter := suffix_after_mark hmarker ha hblanks hmark hbehind
        obtain ⟨m, hm⟩ := Option.isSome_iff_exists.1 (isSome_lastMark? hafter hmark)
        have hsplit : marker.toList ++ '"' :: (blanks ++ ':' :: after) =
            (marker.toList ++ '"' :: (blanks ++ [':'])) ++ after := by simp
        rw [hfirst] at hlast
        rw [markLength?_of_startsWithMark hblanks] at hfirst
        obtain rfl := Option.some.inj hfirst
        dsimp only at hlast
        rw [Nat.add_sub_cancel, hsplit, lastMark?_length_append, hm] at hlast
        have hn : m + (marker.toList ++ '"' :: (blanks ++ [':'])).length + 1 = n :=
          Option.some.inj hlast
        have hle := ih after.length (by simp; omega) hm hafter rfl
        rw [List.length_cons, hsplit, List.length_append]
        omega

end Marker

/-! ## Candidates -/

theorem candidates_append {run : List Char} (hrun : ∀ c ∈ run, c ≠ '\x7b') (n : Nat)
    (s : List Char) : candidates (n + run.length) (run ++ s) = candidates n s := by
  induction run with
  | nil => rfl
  | cons c run ih =>
    obtain ⟨hc, hrun⟩ := List.forall_mem_cons.1 hrun
    rw [List.length_cons, ← Nat.add_assoc, List.cons_append, candidates, if_neg hc]
    exact ih hrun

theorem exists_of_mem_candidates {n : Nat} {s c : List Char} (h : c ∈ candidates n s) :
    ∃ t, c = '\x7b' :: t ∧ c <:+ s := by
  induction s generalizing n with
  | nil => cases n <;> cases h
  | cons d s ih =>
    have hbehind : ∀ n, c ∈ candidates n s → ∃ t, c = '\x7b' :: t ∧ c <:+ d :: s := by
      intro n h
      obtain ⟨t, ht, hsuffix⟩ := ih h
      exact ⟨t, ht, List.suffix_cons_iff.2 (.inr hsuffix)⟩
    cases n with
    | zero => cases h
    | succ n =>
      unfold candidates at h
      split at h
      next hd =>
        rcases List.mem_cons.1 h with rfl | h
        · exact ⟨s, by rw [hd], List.suffix_refl _⟩
        · exact hbehind n h
      · exact hbehind n h

theorem candidates_prefix (n : Nat) (s : List Char) : candidates n s <+: candidates s.length s := by
  induction s generalizing n with
  | nil => cases n <;> exact List.prefix_refl _
  | cons c s ih =>
    cases n with
    | zero => exact List.nil_prefix
    | succ n =>
      rw [List.length_cons, candidates, candidates]
      split
      · exact List.cons_prefix_cons.2 ⟨rfl, ih n⟩
      · exact ih n

theorem mem_candidates {n : Nat} {s t : List Char} (ht : '\x7b' :: t <:+ s)
    (hn : s.length < n + ('\x7b' :: t).length) : '\x7b' :: t ∈ candidates n s := by
  induction s generalizing n with
  | nil => cases List.suffix_nil.1 ht
  | cons c s ih =>
    cases n with
    | zero =>
      have hle := ht.length_le
      omega
    | succ n =>
      unfold candidates
      rcases List.suffix_cons_iff.1 ht with heq | ht
      · obtain ⟨rfl, rfl⟩ := List.cons.inj heq
        rw [if_pos rfl]
        exact List.mem_cons_self
      · have hmem := ih ht (n := n) (by rw [List.length_cons] at hn; omega)
        split
        · exact List.mem_cons_of_mem _ hmem
        · exact hmem

/-! ## Letters -/

/-- No small letter of a text is written as an escape, which would start with `\u006` or `\u007`. -/
def SpellsLetters (s : List Char) : Prop :=
  ∀ c, c = '6' ∨ c = '7' → ¬ ['\\', 'u', '0', '0', c] <:+: s

theorem SpellsLetters.of_suffix {s t : List Char} (h : SpellsLetters s) (ht : t <:+ s) :
    SpellsLetters t :=
  fun c hc hoccurs => h c hc (hoccurs.trans ht.isInfix)

namespace Json

/-! ## Keys -/

/-- The keys of an object itself. -/
def ownKeys : Json → List String
  | obj members => members.map (·.1)
  | _ => []

/-- The keys of a value and of the objects inside it. -/
def keys (v : Json) : List String :=
  v.values.flatMap ownKeys

/-- The keys of a part and of the objects inside it. -/
def Part.keys : Part → List String
  | .value v => v.keys
  | .items vs => (valuesOfItems vs).flatMap ownKeys
  | .members ms => ms.map (·.1) ++ (valuesOfMembers ms).flatMap ownKeys

theorem Part.keys_items_cons (v : Json) (vs : List Json) :
    (Part.items (v :: vs)).keys = (Part.value v).keys ++ (Part.items vs).keys :=
  List.flatMap_append

/-! ## Colons -/

/-- No colon comes next, blanks aside. -/
def NoColon (s : List Char) : Prop :=
  ∀ blanks after, (∀ c ∈ blanks, Text.isBlank c = true) → s ≠ blanks ++ ':' :: after

theorem noColon_cons {c : Char} {s : List Char} (hc : c ≠ ':')
    (h : Text.isBlank c = true → NoColon s) : NoColon (c :: s) := by
  intro blanks after hblanks heq
  cases blanks with
  | nil => exact hc (List.cons.inj heq).1
  | cons d blanks =>
    obtain ⟨rfl, hs⟩ := List.cons.inj heq
    obtain ⟨hd, hblanks⟩ := List.forall_mem_cons.1 hblanks
    exact h hd blanks after hblanks hs

theorem noColon_of_forall_isBlank {s : List Char} (h : ∀ c ∈ s, Text.isBlank c = true) :
    NoColon s := by
  rintro blanks after - rfl
  have hcolon := h ':' (by simp)
  revert hcolon
  decide

theorem Reads.noColon {part : Part} {s rest : List Char} (h : Reads part s rest) : NoColon s := by
  induction h with
  | skip hskip _ ih =>
    refine noColon_cons ?_ fun _ => ih
    rcases hskip with hskip | rfl
    · exact (isSpace_ne hskip).1
    · decide
  | scalar _ hc =>
    refine noColon_cons (isScalarChar_ne hc).2.2.1 fun hblank => ?_
    rw [isBlank_of_isScalarChar hc] at hblank
    cases hblank
  | item _ _ ih => exact ih
  | string => exact noColon_cons (by decide) (absurd · (by decide))
  | array => exact noColon_cons (by decide) (absurd · (by decide))
  | object => exact noColon_cons (by decide) (absurd · (by decide))
  | endItems => exact noColon_cons (by decide) (absurd · (by decide))
  | endMembers => exact noColon_cons (by decide) (absurd · (by decide))
  | member => exact noColon_cons (by decide) (absurd · (by decide))

/-! ## Marks in accepted text -/

theorem Scans.suffix_of_quote {s rest t : List Char} (h : Scans s rest) (hquote : '"' :: t <:+ s) :
    '"' :: t <:+ rest := by
  induction h with
  | done => exact hquote
  | char hscalar _ ih => exact ih (suffix_of_suffix_cons (isScalarChar_ne hscalar).1 hquote)

section Marker

variable {marker : List Char} (hmarker : ∀ c ∈ marker, c.isLower = true)

include hmarker

/-- A string without escapes spells what is written. -/
theorem Quoted.eq_of_plain {cs rest t : List Char} (h : Quoted cs (marker ++ '"' :: t) rest) :
    cs = marker ∧ rest = t := by
  induction marker generalizing cs with
  | nil =>
    cases h with
    | close => exact ⟨rfl, rfl⟩
    | char hquote => exact absurd rfl hquote
  | cons c marker ih =>
    obtain ⟨hc, hmarker⟩ := List.forall_mem_cons.1 hmarker
    obtain ⟨hquote, hslash⟩ := ne_of_isLower hc
    rw [List.cons_append] at h
    generalize hs : marker ++ '"' :: t = s at h
    cases h with
    | close => exact absurd rfl hquote
    | char _ _ h =>
      obtain ⟨rfl, rfl⟩ := ih hmarker (hs ▸ h)
      exact ⟨rfl, rfl⟩
    | escape => exact absurd rfl hslash

/-- A marker in quotes inside a string spells the end of the string, or starts with its closing
quote. -/
theorem Quoted.mark_inside {cs s rest t : List Char} (h : Quoted cs s rest)
    (hmark : '"' :: (marker ++ '"' :: t) <:+ s) :
    ('"' :: marker <:+ cs ∧ rest = t) ∨ '"' :: (marker ++ '"' :: t) <:+ '"' :: rest := by
  induction h with
  | close => exact .inr hmark
  | char hquote _ _ ih =>
    refine (ih (suffix_of_suffix_cons hquote hmark)).imp_left ?_
    rintro ⟨hspells, hrest⟩
    exact ⟨List.suffix_cons_iff.2 (.inr hspells), hrest⟩
  | escape he h ih =>
    have hmark := suffix_of_suffix_cons (by decide) hmark
    rcases he.quote_or_ne with ⟨rfl, rfl⟩ | hne
    · rcases List.suffix_cons_iff.1 hmark with heq | hmark
      · obtain ⟨-, rfl⟩ := List.cons.inj heq
        obtain ⟨rfl, rfl⟩ := h.eq_of_plain hmarker
        exact .inl ⟨List.suffix_refl _, rfl⟩
      · refine (ih hmark).imp_left ?_
        rintro ⟨hspells, hrest⟩
        exact ⟨List.suffix_cons_iff.2 (.inr hspells), hrest⟩
    · have hquote : ∀ c ∈ _, c ≠ '"' := fun c hc => (hne c hc).1
      refine (ih (suffix_of_suffix_append hquote hmark)).imp_left ?_
      rintro ⟨hspells, hrest⟩
      exact ⟨List.suffix_cons_iff.2 (.inr hspells), hrest⟩

variable (ha : marker.head? = some 'a')

include ha

/-- A marker in quotes that starts inside a string spells the whole of the string or the end of
it, unless it lies behind the string. -/
theorem Quoted.mark {cs s rest t : List Char} (h : Quoted cs s rest) (hrest : Tidy .closed rest)
    (hmark : '"' :: (marker ++ '"' :: t) <:+ '"' :: s) :
    ('"' :: marker <:+ '"' :: cs ∧ rest = t) ∨ '"' :: (marker ++ '"' :: t) <:+ rest := by
  rcases List.suffix_cons_iff.1 hmark with heq | hmark
  · obtain ⟨-, rfl⟩ := List.cons.inj heq
    obtain ⟨rfl, rfl⟩ := h.eq_of_plain hmarker
    exact .inl ⟨List.suffix_refl _, rfl⟩
  rcases h.mark_inside hmarker hmark with ⟨hspells, heq⟩ | hmark
  · exact .inl ⟨List.suffix_cons_iff.2 (.inr hspells), heq⟩
  refine .inr ((List.suffix_cons_iff.1 hmark).resolve_left fun heq => ?_)
  -- the marker would come right after the string
  obtain ⟨-, rfl⟩ := List.cons.inj heq
  cases marker with
  | nil => cases ha
  | cons c marker =>
    obtain rfl : c = 'a' := by simpa using ha
    rw [List.cons_append, Tidy, if_neg (by decide)] at hrest
    exact absurd rfl hrest.1

/-- Where a marker in quotes comes before a colon, a key of the value spells it or ends in a quote
and the marker, unless the place is behind the value. -/
theorem Reads.mark {part : Part} {s rest : List Char} (h : Reads part s rest)
    (hrest : Tidy .closed rest) (hcolon : NoColon rest) {blanks after : List Char}
    (hblanks : ∀ c ∈ blanks, Text.isBlank c = true)
    (hmark : '"' :: (marker ++ '"' :: (blanks ++ ':' :: after)) <:+ s) :
    (∃ key ∈ part.keys, '"' :: marker <:+ '"' :: key.toList) ∨
      '"' :: (marker ++ '"' :: (blanks ++ ':' :: after)) <:+ rest := by
  induction h with
  | skip hskip _ ih =>
    have hquote := (isBetween_ne (isBetween_of_skip hskip)).1
    exact ih hrest hcolon (suffix_of_suffix_cons hquote hmark)
  | scalar _ _ _ hscan => exact .inr (hscan.suffix_of_quote hmark)
  | string hcs =>
    refine .inr ((hcs.mark hmarker ha hrest hmark).resolve_left ?_)
    rintro ⟨-, heq⟩
    exact hcolon blanks after hblanks heq
  | array _ ih => exact ih hrest hcolon (suffix_of_suffix_cons (by decide) hmark)
  | object _ _ ih => exact ih hrest hcolon (suffix_of_suffix_cons (by decide) hmark)
  | endItems => exact .inr (suffix_of_suffix_cons (by decide) hmark)
  | endMembers => exact .inr (suffix_of_suffix_cons (by decide) hmark)
  | item _ h' ih ih' =>
    rw [Part.keys_items_cons]
    rcases ih (h'.tidy hrest) h'.noColon hmark with ⟨key, hkey, hspells⟩ | hmark
    · exact .inl ⟨key, List.mem_append_left _ hkey, hspells⟩
    · refine (ih' hrest hcolon hmark).imp_left ?_
      rintro ⟨key, hkey, hspells⟩
      exact ⟨key, List.mem_append_right _ hkey, hspells⟩
  | @member key w _ _ _ _ v ms hkey hw h h' ih ih' =>
    have hpart : ∀ k, k = String.ofList key ∨ k ∈ (Part.value v).keys ∨ k ∈ (Part.members ms).keys →
        k ∈ (Part.members ((String.ofList key, v) :: ms)).keys := by
      intro k hk
      simp only [Part.keys, Json.keys, valuesOfMembers, List.flatMap_append, List.map_cons,
        List.mem_append, List.mem_cons] at hk ⊢
      grind
    have hvalue := h.tidy (h'.tidy hrest)
    rcases hkey.mark hmarker ha (hvalue.colon hw) hmark with ⟨hspells, -⟩ | hmark
    · exact .inl ⟨_, hpart _ (.inl rfl), by rwa [String.toList_ofList]⟩
    have hquote : ∀ c ∈ w, c ≠ '"' := fun c hc => (isBetween_ne (isBetween_of_isSpace (hw c hc))).1
    have hmark := suffix_of_suffix_cons (by decide) (suffix_of_suffix_append hquote hmark)
    rcases ih (h'.tidy hrest) h'.noColon hmark with ⟨k, hk, hspells⟩ | hmark
    · exact .inl ⟨k, hpart k (.inr (.inl hk)), hspells⟩
    · refine (ih' hrest hcolon hmark).imp_left ?_
      rintro ⟨k, hk, hspells⟩
      exact ⟨k, hpart k (.inr (.inr hk)), hspells⟩

end Marker

/-! ## Keys that are marks -/

/-- Small letters that are not written as escapes stand in the text as they are. -/
theorem Quoted.eq_append {cs s rest : List Char} (h : Quoted cs s rest)
    (hcs : ∀ c ∈ cs, c.isLower = true) (hs : SpellsLetters s) : s = cs ++ '"' :: rest := by
  induction h with
  | close => rfl
  | char _ _ _ ih =>
    rw [ih (fun c hc => hcs c (List.mem_cons_of_mem _ hc)) (hs.of_suffix (List.suffix_cons _ _))]
    rfl
  | @escape d e _ _ _ he =>
    have hlower : d.isLower = true := hcs d List.mem_cons_self
    exfalso
    cases he with
    | quote => revert hlower; decide
    | short _ hd => rw [hd] at hlower; cases hlower
    | pair _ _ hd => rw [hd] at hlower; cases hlower
    | unicode _ hd =>
      obtain ⟨c, digits, rfl, hc⟩ := hd hlower
      refine hs c hc ?_
      exact List.IsPrefix.isInfix (List.prefix_append ['\\', 'u', '0', '0', c] _)

/-- A key of small letters that are not written as escapes is a mark. -/
theorem Reads.mark_of_mem_keys {marker : String} (hmarker : ∀ c ∈ marker.toList, c.isLower = true)
    {ms : List (String × Json)} {s rest : List Char} (h : Reads (.members ms) s rest)
    (hs : SpellsLetters s) (hkey : marker ∈ ms.map (·.1)) :
    ∃ t, t <:+ s ∧ StartsWithMark marker t := by
  generalize hpart : Part.members ms = part at h
  induction h generalizing ms with
  | @skip _ c s _ _ _ ih =>
    obtain ⟨t, ht, hmark⟩ := ih (hs.of_suffix (List.suffix_cons _ _)) hkey hpart
    exact ⟨t, ht.trans (List.suffix_cons _ _), hmark⟩
  | endMembers =>
    cases hpart
    cases hkey
  | @member key w s t u rest v ms' hquoted hw h h' _ ih' =>
    cases hpart
    have hbehind : u <:+ '"' :: s := by
      refine (h.suffix.trans ?_).trans (hquoted.suffix.trans (List.suffix_cons _ _))
      exact (List.suffix_cons _ _).trans (List.suffix_append _ _)
    rcases List.mem_cons.1 hkey with heq | hkey
    · have hspelled : s = key ++ '"' :: (w ++ ':' :: t) := by
        refine hquoted.eq_append ?_ (hs.of_suffix (List.suffix_cons _ _))
        rwa [heq, String.toList_ofList] at hmarker
      refine ⟨_, List.suffix_refl _, w, t, fun c hc => isBlank_of_isSpace (hw c hc), ?_⟩
      rw [hspelled, heq, String.toList_ofList]
    · obtain ⟨t', ht', hmark⟩ := ih' (hs.of_suffix hbehind) hkey rfl
      exact ⟨t', ht'.trans hbehind, hmark⟩
  | _ => cases hpart

end Json

end TestReport
