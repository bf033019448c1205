import TestReport.Proofs.Search
import TestReport.Proofs.Trailing

/-!
# What the search for a report finds

The search for a report, said without the search (`SearchResult`): the object at the first candidate
where one with the marker key can be read, or else the error of the first candidate where nothing
can be read, or else that there is no report. Candidates are braces before the last mark.

The last mark is not quite what it seems. Marks are found one after another, and a mark that starts
within the one before it is passed over. So the braces that are tried (`IsTried`) are those before
the last mark that is found, and they may be fewer than the braces before a mark (`IsBeforeMark`).
The difference is a brace inside a mark, hence in the marker: for a marker without braces the two
are the same (`isTried_iff_isBeforeMark`).

A report is found between other output, as what follows an object does not change how it is read
and what stands before it is noise unless an object with the marker key starts there.
-/

namespace TestReport

open Json (ReadError Fault)

/-! ## Candidates -/

/-- The part of a text from one of its opening braces on. -/
def StartsAtBrace (output c : List Char) : Prop :=
  c <:+ output ∧ c.head? = some '\x7b'

theorem StartsAtBrace.exists_cons {output c : List Char} (h : StartsAtBrace output c) :
    ∃ t, c = '\x7b' :: t := by
  obtain ⟨-, hhead⟩ := h
  cases c with
  | nil => cases hhead
  | cons d t => exact ⟨t, by rw [Option.some.inj hhead]⟩

theorem length_lt_of_mem_candidates {n : Nat} {s c : List Char} (h : c ∈ candidates n s) :
    s.length < n + c.length := by
  induction s generalizing n with
  | nil => cases n <;> cases h
  | cons d s ih =>
    cases n with
    | zero => cases h
    | succ n =>
      rw [List.length_cons]
      unfold candidates at h
      split at h
      · rcases List.mem_cons.1 h with rfl | h
        · rw [List.length_cons]
          omega
        · have hlt := ih h
          omega
      · have hlt := ih h
        omega

theorem mem_candidates_iff {n : Nat} {s c : List Char} :
    c ∈ candidates n s ↔ StartsAtBrace s c ∧ s.length < n + c.length := by
  constructor
  · intro h
    obtain ⟨t, rfl, hsuffix⟩ := exists_of_mem_candidates h
    exact ⟨⟨hsuffix, rfl⟩, length_lt_of_mem_candidates h⟩
  · rintro ⟨hbrace, hn⟩
    obtain ⟨t, rfl⟩ := hbrace.exists_cons
    exact mem_candidates hbrace.1 hn

/-- Each candidate is shorter than those before it. -/
theorem pairwise_candidates (n : Nat) (s : List Char) :
    (candidates n s).Pairwise fun c c' => c'.length < c.length := by
  induction s generalizing n with
  | nil => cases n <;> exact .nil
  | cons d s ih =>
    cases n with
    | zero => exact .nil
    | succ n =>
      unfold candidates
      split
      · refine List.pairwise_cons.2 ⟨fun c hc => ?_, ih n⟩
        have hle := (mem_candidates_iff.1 hc).1.1.length_le
        rw [List.length_cons]
        omega
      · exact ih n

/-- The first answer on a list of texts that get shorter. -/
theorem findSome?_eq_some_iff_of_pairwise {α : Type} {f : List Char → Option α}
    {texts : List (List Char)} (hshorter : texts.Pairwise fun c c' => c'.length < c.length)
    {a : α} :
    texts.findSome? f = some a ↔
      ∃ c ∈ texts, f c = some a ∧ ∀ c' ∈ texts, c.length < c'.length → f c' = none := by
  induction texts with
  | nil => simp
  | cons d texts ih =>
    obtain ⟨hd, htexts⟩ := List.pairwise_cons.1 hshorter
    rw [List.findSome?_cons]
    cases hfirst : f d with
    | some b =>
      constructor
      · intro h
        cases h
        refine ⟨d, List.mem_cons_self, hfirst, ?_⟩
        intro c' hc' hlt
        rcases List.mem_cons.1 hc' with rfl | hc'
        · omega
        · have hlt' := hd c' hc'
          omega
      · rintro ⟨c, hc, ha, hnone⟩
        rcases List.mem_cons.1 hc with rfl | hc
        · exact hfirst.symm.trans ha
        · have hcontra := hnone d List.mem_cons_self (hd c hc)
          rw [hfirst] at hcontra
          cases hcontra
    | none =>
      dsimp only
      rw [ih htexts]
      constructor
      · rintro ⟨c, hc, ha, hnone⟩
        refine ⟨c, List.mem_cons_of_mem _ hc, ha, ?_⟩
        exact List.forall_mem_cons.2 ⟨fun _ => hfirst, hnone⟩
      · rintro ⟨c, hc, ha, hnone⟩
        rcases List.mem_cons.1 hc with rfl | hc
        · rw [hfirst] at ha
          cases ha
        · exact ⟨c, hc, ha, (List.forall_mem_cons.1 hnone).2⟩

/-! ## The result of a search -/

/-- A text starts with an object that has the marker for a key. -/
def Opens (marker : String) (c : List Char) (members : List (String × Json)) : Prop :=
  marker ∈ members.map (·.1) ∧
    ∃ rest, Json.readValue Json.nestingLimit c = .ok (.obj members, rest)

/-- What a search should result in, given its candidates. Of two candidates the longer one comes
first in the output. -/
inductive SearchResult (framework marker : String) (IsCandidate : List Char → Prop) :
    Except ExtractError (List (String × Json)) → Prop
  | found {c : List Char} {members : List (String × Json)} (hc : IsCandidate c)
    (hopens : Opens marker c members)
    (hfirst : ∀ c', IsCandidate c' → c.length < c'.length → ∀ ms, ¬ Opens marker c' ms) :
    SearchResult framework marker IsCandidate (.ok (canonicalObject members))
  | undecodable {c : List Char} {fault : Fault}
    (hnone : ∀ c', IsCandidate c' → ∀ ms, ¬ Opens marker c' ms) (hc : IsCandidate c)
    (hfault : Json.readValue Json.nestingLimit c = .error fault)
    (hfirst : ∀ c', IsCandidate c' → c.length < c'.length →
      ∃ x, Json.readValue Json.nestingLimit c' = .ok x) :
    SearchResult framework marker IsCandidate (.error (.undecodable framework (fault.error c)))
  | noPayload (hnone : ∀ c', IsCandidate c' → ∀ ms, ¬ Opens marker c' ms)
    (hall : ∀ c, IsCandidate c → ∃ x, Json.readValue Json.nestingLimit c = .ok x) :
    SearchResult framework marker IsCandidate (.error (.noPayload framework marker))

theorem Opens.unique {marker : String} {c : List Char} {members members' : List (String × Json)}
    (h : Opens marker c members) (h' : Opens marker c members') : members = members' := by
  obtain ⟨-, rest, hread⟩ := h
  obtain ⟨-, rest', hread'⟩ := h'
  cases hread.symm.trans hread'
  rfl

/-- There is one result at most. -/
theorem SearchResult.unique {framework marker : String} {IsCandidate : List Char → Prop}
    {output : List Char} (hsuffix : ∀ c, IsCandidate c → c <:+ output)
    {r r' : Except ExtractError (List (String × Json))}
    (h : SearchResult framework marker IsCandidate r)
    (h' : SearchResult framework marker IsCandidate r') : r = r' := by
  have hsame : ∀ c c', IsCandidate c → IsCandidate c' → ¬ c.length < c'.length →
      ¬ c'.length < c.length → c = c' := by
    intro c c' hc hc' hlt hgt
    have hle : c.length ≤ c'.length := by omega
    exact (List.suffix_of_suffix_length_le (hsuffix c hc) (hsuffix c' hc') hle).eq_of_length
      (by omega)
  cases h with
  | @found c members hc hopens hfirst =>
    cases h' with
    | @found c' members' hc' hopens' hfirst' =>
      obtain rfl := hsame c c' hc hc' (fun hlt => hfirst c' hc' hlt _ hopens')
        (fun hlt => hfirst' c hc hlt _ hopens)
      rw [hopens.unique hopens']
    | undecodable hnone => exact absurd hopens (hnone c hc members)
    | noPayload hnone => exact absurd hopens (hnone c hc members)
  | @undecodable c fault hnone hc hfault hfirst =>
    cases h' with
    | @found c' members' hc' hopens' => exact absurd hopens' (hnone c' hc' members')
    | @undecodable c' fault' _ hc' hfault' hfirst' =>
      have hreads : ∀ {c : List Char} {fault : Fault},
          Json.readValue Json.nestingLimit c = .error fault →
          ¬ ∃ x, Json.readValue Json.nestingLimit c = .ok x := by
        rintro c fault hfault ⟨x, hx⟩
        cases hfault.symm.trans hx
      obtain rfl := hsame c c' hc hc' (fun hlt => hreads hfault' (hfirst c' hc' hlt))
        (fun hlt => hreads hfault (hfirst' c hc hlt))
      cases hfault.symm.trans hfault'
      rfl
    | noPayload _ hall =>
      obtain ⟨x, hx⟩ := hall c hc
      cases hfault.symm.trans hx
  | noPayload hnone hall =>
    cases h' with
    | @found c' members' hc' hopens' => exact absurd hopens' (hnone c' hc' members')
    | @undecodable c' _ _ hc' hfault' =>
      obtain ⟨x, hx⟩ := hall c' hc'
      cases hfault'.symm.trans hx
    | noPayload => rfl

theorem markedObject?_eq_some_iff {marker : String} {c : List Char}
    {found : List (String × Json)} :
    markedObject? marker c = some found ↔
      ∃ members, Opens marker c members ∧ found = canonicalObject members := by
  cases hread : Json.readValue Json.nestingLimit c with
  | error fault =>
    rw [markedObject?, hread]
    constructor
    · intro h
      cases h
    · rintro ⟨members, ⟨-, rest, hread'⟩, -⟩
      cases hread.symm.trans hread'
  | ok x =>
    obtain ⟨v, rest⟩ := x
    rw [markedObject?_eq_owned? hread]
    constructor
    · intro h
      cases v with
      | obj members =>
        by_cases hkey : marker ∈ members.map (·.1)
        · rw [owned?, if_pos hkey] at h
          exact ⟨members, ⟨hkey, rest, hread⟩, (Option.some.inj h).symm⟩
        · rw [owned?, if_neg hkey] at h
          cases h
      | _ => cases h
    · rintro ⟨members, ⟨hkey, rest', hread'⟩, rfl⟩
      cases hread.symm.trans hread'
      exact if_pos hkey

theorem markedObject?_eq_none_iff {marker : String} {c : List Char} :
    markedObject? marker c = none ↔ ∀ members, ¬ Opens marker c members := by
  rw [Option.eq_none_iff_forall_ne_some]
  constructor
  · intro h members hopens
    exact h _ (markedObject?_eq_some_iff.2 ⟨members, hopens, rfl⟩)
  · intro h found hfound
    obtain ⟨members, hopens, -⟩ := markedObject?_eq_some_iff.1 hfound
    exact h members hopens

theorem readError?_eq_some_iff {c : List Char} {reason : ReadError} :
    readError? c = some reason ↔
      ∃ fault, Json.readValue Json.nestingLimit c = .error fault ∧ reason = fault.error c := by
  unfold readError?
  cases Json.readValue Json.nestingLimit c with
  | error fault => simp [eq_comm]
  | ok x => simp

theorem readError?_eq_none_iff {c : List Char} :
    readError? c = none ↔ ∃ x, Json.readValue Json.nestingLimit c = .ok x := by
  unfold readError?
  cases Json.readValue Json.nestingLimit c with
  | error fault => simp
  | ok x => simp

/-! ## The braces that are tried -/

/-- A brace that is tried: it stands before the last mark that is found. -/
def IsTried (marker : String) (output c : List Char) : Prop :=
  StartsAtBrace output c ∧
    ∃ n, lastMark? marker 0 output = some n ∧ output.length < n + c.length

/-- A brace before a mark. -/
def IsBeforeMark (marker : String) (output c : List Char) : Prop :=
  StartsAtBrace output c ∧ ∃ t, t <:+ c ∧ StartsWithMark marker t

/-- The search finds what it should at the braces that are tried. -/
theorem searchResult_findObject (output : List Char) (framework marker : String) :
    SearchResult framework marker (IsTried marker output) (findObject output framework marker) := by
  unfold findObject
  cases hlast : lastMark? marker 0 output with
  | none =>
    have hnot : ∀ c, ¬ IsTried marker output c := by
      rintro c ⟨-, n, hn, -⟩
      cases hlast.symm.trans hn
    exact .noPayload (fun c hc => absurd hc (hnot c)) (fun c hc => absurd hc (hnot c))
  | some n =>
    have htried : ∀ c, IsTried marker output c ↔ c ∈ candidates n output := by
      intro c
      rw [mem_candidates_iff, IsTried, hlast]
      simp
    have hshorter := pairwise_candidates n output
    dsimp only
    cases hfound : (candidates n output).findSome? (markedObject? marker) with
    | some found =>
      obtain ⟨c, hc, hmarked, hfirst⟩ :=
        (findSome?_eq_some_iff_of_pairwise hshorter).1 hfound
      obtain ⟨members, hopens, rfl⟩ := markedObject?_eq_some_iff.1 hmarked
      refine .found ((htried c).2 hc) hopens fun c' hc' hlt => ?_
      exact markedObject?_eq_none_iff.1 (hfirst c' ((htried c').1 hc') hlt)
    | none =>
      have hnone : ∀ c', IsTried marker output c' → ∀ ms, ¬ Opens marker c' ms :=
        fun c' hc' => markedObject?_eq_none_iff.1
          (List.findSome?_eq_none_iff.1 hfound c' ((htried c').1 hc'))
      cases herror : (candidates n output).findSome? readError? with
      | some reason =>
        obtain ⟨c, hc, hreason, hfirst⟩ :=
          (findSome?_eq_some_iff_of_pairwise hshorter).1 herror
        obtain ⟨fault, hfault, rfl⟩ := readError?_eq_some_iff.1 hreason
        refine .undecodable hnone ((htried c).2 hc) hfault fun c' hc' hlt => ?_
        exact readError?_eq_none_iff.1 (hfirst c' ((htried c').1 hc') hlt)
      | none =>
        refine .noPayload hnone fun c hc => ?_
        exact readError?_eq_none_iff.1 (List.findSome?_eq_none_iff.1 herror c ((htried c).1 hc))

theorem findObject_eq_iff_searchResult {output : List Char} {framework marker : String}
    {result : Except ExtractError (List (String × Json))} :
    findObject output framework marker = result ↔
      SearchResult framework marker (IsTried marker output) result := by
  have hspec := searchResult_findObject output framework marker
  constructor
  · rintro rfl
    exact hspec
  · exact hspec.unique fun c hc => hc.1.1

/-! ## Marks that are found -/

/-- The text of a mark. -/
def markText (marker : String) (blanks : List Char) : List Char :=
  '"' :: (marker.toList ++ '"' :: (blanks ++ [':']))

section Marks

variable {marker : String}

theorem startsWithMark_iff {s : List Char} :
    StartsWithMark marker s ↔
      ∃ blanks after, (∀ c ∈ blanks, Text.isBlank c = true) ∧
        s = markText marker blanks ++ after := by
  simp [StartsWithMark, markText]

/-- Behind a mark that is found the search for the last one goes on at the end of that mark. -/
theorem lastMark?_markText_append {blanks : List Char}
    (hblanks : ∀ c ∈ blanks, Text.isBlank c = true) (after : List Char) :
    lastMark? marker 0 (markText marker blanks ++ after) =
      some (((lastMark? marker 0 after).map (· + (markText marker blanks).length)).getD 0) := by
  have hsplit : marker.toList ++ '"' :: (blanks ++ ':' :: after) =
      (marker.toList ++ '"' :: (blanks ++ [':'])) ++ after := by simp
  have hlength :
      markLength? marker ('"' :: ((marker.toList ++ '"' :: (blanks ++ [':'])) ++ after)) =
        some ((marker.toList ++ '"' :: (blanks ++ [':'])).length + 1) := by
    rw [← hsplit]
    exact markLength?_of_startsWithMark hblanks
  rw [markText, List.cons_append, lastMark?, hlength]
  dsimp only
  rw [Nat.add_sub_cancel, lastMark?_length_append, Option.map_map, List.length_cons]
  rfl

/-- A mark that is not found starts within one that is. In any case the last mark that is found does
not end before it. -/
theorem exists_lastMark? {s t : List Char} (ht : t <:+ s) (hmark : StartsWithMark marker t) :
    ∃ n blanks rest, lastMark? marker 0 s = some n ∧ (∀ c ∈ blanks, Text.isBlank c = true) ∧
      s.drop n = markText marker blanks ++ rest ∧ rest.length < t.length := by
  -- The search goes on behind a mark that is found, with a shorter text.
  induction hlength : s.length using Nat.strongRecOn generalizing s t with
  | ind length ih =>
    subst hlength
    by_cases hfirst : StartsWithMark marker s
    · obtain ⟨blanks, after, hblanks, rfl⟩ := startsWithMark_iff.1 hfirst
      rw [lastMark?_markText_append hblanks]
      cases hlast : lastMark? marker 0 after with
      | none =>
        refine ⟨0, blanks, after, rfl, hblanks, rfl, ?_⟩
        by_contra hshort
        have hafter : t <:+ after :=
          List.suffix_of_suffix_length_le ht (List.suffix_append _ _) (by omega)
        have hsome := isSome_lastMark? hafter hmark
        rw [hlast] at hsome
        cases hsome
      | some m =>
        obtain ⟨t', ht', hmark', hle⟩ :
            ∃ t', t' <:+ after ∧ StartsWithMark marker t' ∧ t'.length ≤ t.length := by
          by_cases hshort : t.length ≤ after.length
          · have hafter := List.suffix_of_suffix_length_le ht (List.suffix_append _ _) hshort
            exact ⟨t, hafter, hmark, Nat.le_refl _⟩
          · obtain ⟨t', ht', hmark'⟩ := exists_of_lastMark? hlast
            have hle := ht'.length_le
            exact ⟨t', ht', hmark', by omega⟩
        have hlt : after.length < (markText marker blanks ++ after).length := by
          rw [List.length_append, markText, List.length_cons]
          omega
        obtain ⟨n, blanks', rest, hn, hblanks', hdrop, hrest⟩ := ih _ hlt ht' hmark' rfl
        obtain rfl : m = n := Option.some.inj (hlast.symm.trans hn)
        refine ⟨m + (markText marker blanks).length, blanks', rest, rfl, hblanks', ?_, by omega⟩
        rw [Nat.add_comm, ← List.drop_drop, List.drop_left]
        exact hdrop
    · cases s with
      | nil =>
        obtain rfl := List.suffix_nil.1 ht
        exact absurd hmark hfirst
      | cons c s =>
        have hnone : markLength? marker (c :: s) = none :=
          Option.not_isSome_iff_eq_none.1 fun hsome => hfirst (isSome_markLength?_iff.1 hsome)
        have hbehind : t <:+ s := by
          refine (List.suffix_cons_iff.1 ht).resolve_left ?_
          rintro rfl
          exact hfirst hmark
        obtain ⟨n, blanks, rest, hn, hblanks, hdrop, hrest⟩ :=
          ih s.length (Nat.lt_succ_self _) hbehind hmark rfl
        refine ⟨n + 1, blanks, rest, ?_, hblanks, hdrop, hrest⟩
        rw [lastMark?, hnone]
        dsimp only
        rw [hn]
        rfl

/-- A brace that is tried stands before a mark. -/
theorem IsTried.isBeforeMark {output c : List Char} (h : IsTried marker output c) :
    IsBeforeMark marker output c := by
  obtain ⟨hbrace, n, hn, hlength⟩ := h
  obtain ⟨t, ht, hmark⟩ := exists_of_lastMark? hn
  obtain ⟨m, blanks, rest, hm, hblanks, hdrop, -⟩ := exists_lastMark? ht hmark
  obtain rfl : n = m := Option.some.inj (hn.symm.trans hm)
  refine ⟨hbrace, output.drop n, ?_, startsWithMark_iff.2 ⟨blanks, rest, hblanks, hdrop⟩⟩
  refine List.suffix_of_suffix_length_le (List.drop_suffix n output) hbrace.1 ?_
  rw [List.length_drop]
  omega

/-- When no brace is part of the marker, the braces that are tried are those before a mark. -/
theorem isTried_iff_isBeforeMark (hmarker : '\x7b' ∉ marker.toList) {output c : List Char} :
    IsTried marker output c ↔ IsBeforeMark marker output c := by
  refine ⟨IsTried.isBeforeMark, ?_⟩
  rintro ⟨hbrace, t, ht, hmark⟩
  obtain ⟨n, blanks, rest, hn, hblanks, hdrop, hrest⟩ := exists_lastMark? (ht.trans hbrace.1) hmark
  refine ⟨hbrace, n, hn, ?_⟩
  by_contra hshort
  -- Otherwise the brace would stand in the mark that is found last.
  have hlength := congrArg List.length hdrop
  rw [List.length_drop, List.length_append] at hlength
  have hinside : c <:+ markText marker blanks ++ rest := by
    rw [← hdrop]
    refine List.suffix_of_suffix_length_le hbrace.1 (List.drop_suffix n output) ?_
    rw [List.length_drop]
    omega
  have hmarkText : ∀ d ∈ markText marker blanks, d ≠ '\x7b' := by
    rintro d hd rfl
    simp only [markText, List.mem_cons, List.mem_append, List.not_mem_nil, or_false] at hd
    rcases hd with hd | hd | hd | hd | hd
    · exact absurd hd (by decide)
    · exact hmarker hd
    · exact absurd hd (by decide)
    · exact absurd (hblanks _ hd) (by decide)
    · exact absurd hd (by decide)
  obtain ⟨u, rfl⟩ := hbrace.exists_cons
  have hle := (Json.suffix_of_suffix_append hmarkText hinside).length_le
  have hle' := ht.length_le
  omega

end Marks

/-! ## Reports between other output -/

/-- A text is that of one object, which has the marker for a key, and the key stands there as it is.
-/
structure IsReportText (marker : String) (text : List Char) (members : List (String × Json)) :
    Prop where
  head_eq : text.head? = some '\x7b'
  read : Json.readValue Json.nestingLimit text = .ok (.obj members, [])
  mem_keys : marker ∈ members.map (·.1)
  exists_mark : ∃ t, t <:+ text ∧ StartsWithMark marker t

section Noise

variable {marker : String} {before text after : List Char} {members : List (String × Json)}

/-- A report is read the same whatever follows it. -/
theorem IsReportText.opens (h : IsReportText marker text members) (after : List Char) :
    Opens marker (text ++ after) members :=
  ⟨h.mem_keys, after, Json.readValue_append h.read (Or.inr nofun) after⟩

theorem IsReportText.isBeforeMark (h : IsReportText marker text members)
    (before after : List Char) :
    IsBeforeMark marker (before ++ (text ++ after)) (text ++ after) := by
  obtain ⟨t, ⟨front, hfront⟩, blanks, behind, hblanks, rfl⟩ := h.exists_mark
  refine ⟨⟨List.suffix_append _ _, ?_⟩, _, ⟨front, ?_⟩, blanks, behind ++ after, hblanks, rfl⟩
  · rw [List.head?_append, h.head_eq]
    rfl
  · rw [← hfront]
    simp

/-- Where no object with the marker key starts before a report, the search finds the report exactly
if it is tried. -/
theorem IsReportText.findObject_eq_iff (h : IsReportText marker text members) (framework : String)
    (hbefore : ∀ c, StartsAtBrace (before ++ (text ++ after)) c →
      (text ++ after).length < c.length → ∀ ms, ¬ Opens marker c ms) :
    findObject (before ++ (text ++ after)) framework marker = .ok (canonicalObject members) ↔
      IsTried marker (before ++ (text ++ after)) (text ++ after) := by
  constructor
  · intro hfound
    generalize hresult : Except.ok (canonicalObject members) = result at hfound
    cases findObject_eq_iff_searchResult.1 hfound with
    | @found c ms hc hopens =>
      obtain ⟨hbrace, n, hn, hlength⟩ := hc
      have hle : ¬ (text ++ after).length < c.length := fun hlt => hbefore c hbrace hlt ms hopens
      exact ⟨(h.isBeforeMark before after).1, n, hn, by omega⟩
    | undecodable => cases hresult
    | noPayload => cases hresult
  · intro htried
    refine findObject_eq_iff_searchResult.2 (.found htried (h.opens after) ?_)
    exact fun c hc hlt => hbefore c hc.1 hlt

end Noise

/-- The search is exact about the braces that are tried. These stand before a mark, and for a marker
without braces they are all that do. A report between any other output is found, as long as no
object with the marker key starts before it: exactly if it is tried, and always for a marker without
braces. -/
theorem findObject_exact (output : List Char) (framework marker : String) :
    (∀ result, findObject output framework marker = result ↔
      SearchResult framework marker (IsTried marker output) result) ∧
    (∀ c, IsTried marker output c → IsBeforeMark marker output c) ∧
    ('\x7b' ∉ marker.toList → ∀ c, IsBeforeMark marker output c → IsTried marker output c) ∧
    ∀ before text after members, output = before ++ (text ++ after) →
      IsReportText marker text members →
      (∀ c, StartsAtBrace output c → (text ++ after).length < c.length →
        ∀ ms, ¬ Opens marker c ms) →
      (findObject output framework marker = .ok (canonicalObject members) ↔
        IsTried marker output (text ++ after)) ∧
      ('\x7b' ∉ marker.toList →
        findObject output framework marker = .ok (canonicalObject members)) := by
  refine ⟨fun result => findObject_eq_iff_searchResult, fun c hc => hc.isBeforeMark, ?_, ?_⟩
  · intro hmarker c
    exact (isTried_iff_isBeforeMark hmarker).2
  · rintro before text after members rfl h hbefore
    have hfound := h.findObject_eq_iff framework hbefore
    refine ⟨hfound, fun hmarker => hfound.2 ?_⟩
    exact (isTried_iff_isBeforeMark hmarker).2 (h.isBeforeMark before after)

/-- Only the braces of the output before a report have to be looked at. -/
theorem not_opens_of_candidates {marker : String} {before rest : List Char}
    (h : ∀ c ∈ candidates before.length (before ++ rest), markedObject? marker c = none) :
    ∀ c, StartsAtBrace (before ++ rest) c → rest.length < c.length →
      ∀ ms, ¬ Opens marker c ms := by
  intro c hbrace hlength
  refine markedObject?_eq_none_iff.1 (h c (mem_candidates_iff.2 ⟨hbrace, ?_⟩))
  rw [List.length_append]
  omega

/-- The text of a small report. -/
def smallReport : List Char :=
  "\x7b\"stats\":\x7b\"tests\":1\x7d\x7d".toList

theorem isReportText_smallReport :
    IsReportText "stats" smallReport [("stats", .obj [("tests", .num (.int 1))])] where
  head_eq := rfl
  read := by decide +kernel
  mem_keys := by decide
  exists_mark := ⟨_, List.drop_suffix 1 _, isSome_markLength?_iff.1 (by decide +kernel)⟩

/-- The report between a warning and a line of a log, both with braces of their own. -/
def loggedReport : List Char :=
  "npm WARN \x7bweird\x7d\n".toList ++ (smallReport ++ "\nDone \x7bok\x7d".toList)

/-- It is found. -/
theorem findObject_exact_loggedReport :
    findObject loggedReport "mocha" "stats" = .ok [("stats", .obj [("tests", .num (.int 1))])] := by
  have hbefore : ∀ c, StartsAtBrace loggedReport c →
      (smallReport ++ "\nDone \x7bok\x7d".toList).length < c.length →
      ∀ ms, ¬ Opens "stats" c ms :=
    not_opens_of_candidates (by decide +kernel)
  exact ((findObject_exact loggedReport "mocha" "stats").2.2.2 _ _ _ _ rfl isReportText_smallReport
    hbefore).2 (by decide)

/-- The text of a report whose key starts with a colon and ends with a brace. -/
def colonReport : List Char :=
  "\x7b\":\x7b\":1\x7d".toList

/-- A quote and a colon before that report make a mark together with its start, so that the mark in
the report is passed over and the report is not found. -/
theorem findObject_colonReport :
    IsReportText ":\x7b" colonReport [(":\x7b", .num (.int 1))] ∧
      (∀ c, StartsAtBrace ("\":".toList ++ (colonReport ++ [])) c →
        (colonReport ++ []).length < c.length → ∀ ms, ¬ Opens ":\x7b" c ms) ∧
      findObject ("\":".toList ++ (colonReport ++ [])) "mocha" ":\x7b" =
        .error (.noPayload "mocha" ":\x7b") := by
  have hread : Json.readValue Json.nestingLimit colonReport =
      .ok (.obj [(":\x7b", .num (.int 1))], []) := by
    decide +kernel
  have hmark : StartsWithMark ":\x7b" (colonReport.drop 1) :=
    isSome_markLength?_iff.1 (by decide +kernel)
  refine ⟨⟨rfl, hread, by decide, _, List.drop_suffix 1 _, hmark⟩, ?_, by decide +kernel⟩
  exact not_opens_of_candidates (by decide +kernel)

end TestReport
