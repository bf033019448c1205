import TestReport.Proofs.Marks
import TestReport.Proofs.Members

/-!
# Searching accepted text

What a search for a marker finds at the braces of accepted text (`objectsIn_of_reads`): the objects
inside the value that have the marker for a key, in the order of the text, and nothing else. At a
brace that opens an object the search reads that object. At a brace in a string it may well read
something, but the keys that it sees there are what stands between two strings, and none of them is
the marker.

The search stops at the last mark, so it may see less than that (`candidates_prefix`). It sees an
object all the same when its key is written without escapes, as the key is a mark then that comes
after the brace (`Reads.mark_of_mem_keys`).
-/

namespace TestReport

open Json (Part Reads Quoted Tidy canonicalMembers sortMembers)

/-! ## One candidate -/

/-- The members of an object in canonical form. -/
def canonicalObject (members : List (String × Json)) : List (String × Json) :=
  sortMembers (canonicalMembers members)

theorem map_fst_canonicalMembers (members : List (String × Json)) :
    (canonicalMembers members).map (·.1) = members.map (·.1) := by
  induction members with
  | nil => rfl
  | cons m members ih =>
    rw [canonicalMembers, List.map_cons, List.map_cons, ih]

theorem isSome_lookup_canonicalObject {key : String} {members : List (String × Json)} :
    ((canonicalObject members).lookup key).isSome = true ↔ key ∈ members.map (·.1) := by
  rw [canonicalObject, Json.isSome_lookup_iff, Json.mem_keys_sortMembers, map_fst_canonicalMembers]

/-- The members of a value in canonical form, if the marker is one of its keys. -/
def owned? (marker : String) : Json → Option (List (String × Json))
  | .obj members =>
    if marker ∈ members.map (·.1) then some (canonicalObject members) else none
  | _ => none

/-- A candidate where a value can be read is judged by that value. -/
theorem markedObject?_eq_owned? {marker : String} {s rest : List Char} {v : Json}
    (hread : Json.readValue Json.nestingLimit s = .ok (v, rest)) :
    markedObject? marker s = owned? marker v := by
  unfold markedObject?
  rw [hread]
  cases v with
  | obj members =>
    have hmembers : (Json.obj members).canonical.members? = some (canonicalObject members) := rfl
    dsimp only
    rw [hmembers, owned?, Option.filter_some]
    by_cases hkey : marker ∈ members.map (·.1)
    · rw [if_pos hkey, if_pos (isSome_lookup_canonicalObject.2 hkey)]
    · rw [if_neg hkey, if_neg fun h => hkey (isSome_lookup_canonicalObject.1 h)]
  | _ => rfl

/-- Where letters are not written as escapes, the key of an object that is found is a mark. -/
theorem exists_mark_of_markedObject? {marker : String}
    (hmarker : ∀ c ∈ marker.toList, c.isLower = true) {s : List Char} (hs : SpellsLetters s)
    {found : List (String × Json)} (h : markedObject? marker ('\x7b' :: s) = some found) :
    ∃ t, t <:+ s ∧ StartsWithMark marker t := by
  cases hread : Json.readValue Json.nestingLimit ('\x7b' :: s) with
  | error fault =>
    rw [markedObject?, hread] at h
    cases h
  | ok x =>
    obtain ⟨v, rest⟩ := x
    obtain ⟨ms, rfl, hms⟩ :=
      Json.exists_of_reads_brace (Json.reads_of_readValue (Nat.le_refl _) hread)
    rw [markedObject?_eq_owned? hread, owned?] at h
    refine hms.mark_of_mem_keys hmarker hs ?_
    by_contra hkey
    rw [if_neg hkey] at h
    cases h

/-! ## All candidates of a text -/

/-- The objects that a search finds at the braces of a text, one after another. -/
def objectsIn (marker : String) (s : List Char) : List (List (String × Json)) :=
  (candidates s.length s).filterMap (markedObject? marker)

theorem objectsIn_cons {marker : String} {c : Char} (hc : c ≠ '\x7b') (s : List Char) :
    objectsIn marker (c :: s) = objectsIn marker s := by
  rw [objectsIn, List.length_cons, candidates, if_neg hc]
  rfl

theorem objectsIn_append {marker : String} {run : List Char} (hrun : ∀ c ∈ run, c ≠ '\x7b')
    (s : List Char) : objectsIn marker (run ++ s) = objectsIn marker s := by
  induction run with
  | nil => rfl
  | cons c run ih =>
    obtain ⟨hc, hrun⟩ := List.forall_mem_cons.1 hrun
    rw [List.cons_append, objectsIn_cons hc, ih hrun]

theorem objectsIn_brace (marker : String) (s : List Char) :
    objectsIn marker ('\x7b' :: s) =
      (markedObject? marker ('\x7b' :: s)).toList ++ objectsIn marker s := by
  rw [objectsIn, List.length_cons, candidates, if_pos rfl, List.filterMap_cons, objectsIn]
  cases markedObject? marker ('\x7b' :: s) <;> rfl

theorem objectsIn_of_scans {marker : String} {s rest : List Char} (h : Json.Scans s rest) :
    objectsIn marker s = objectsIn marker rest := by
  induction h with
  | done => rfl
  | char hc _ ih => rw [objectsIn_cons (Json.isScalarChar_ne hc).2.2.2, ih]

section Marker

variable {marker : String} (ha : marker.toList.head? = some 'a')

include ha

/-- The search finds nothing at a brace in a string. -/
theorem markedObject?_of_tidy_inside {s : List Char} (hs : Tidy .inside s) :
    markedObject? marker ('\x7b' :: s) = none := by
  cases hread : Json.readValue Json.nestingLimit ('\x7b' :: s) with
  | error fault => rw [markedObject?, hread]
  | ok x =>
    obtain ⟨v, rest⟩ := x
    obtain ⟨ms, rfl, hms⟩ :=
      Json.exists_of_reads_brace (Json.reads_of_readValue (Nat.le_refl _) hread)
    obtain ⟨-, hkeys⟩ := hms.tidy_inside hs
    rw [markedObject?_eq_owned? hread, owned?, if_neg]
    intro hmarker
    obtain ⟨m, hm, rfl⟩ := List.mem_map.1 hmarker
    exact hkeys ms rfl m hm ha

theorem objectsIn_of_quoted {cs s rest : List Char} (h : Quoted cs s rest)
    (hrest : Tidy .closed rest) : objectsIn marker s = objectsIn marker rest := by
  induction h with
  | close => exact objectsIn_cons (by decide) _
  | @char c _ s _ _ _ h ih =>
    by_cases hc : c = '\x7b'
    · subst hc
      rw [objectsIn_brace, markedObject?_of_tidy_inside ha (h.tidy hrest)]
      exact ih hrest
    · rw [objectsIn_cons hc]
      exact ih hrest
  | escape he _ ih =>
    rw [objectsIn_cons (by decide), objectsIn_append he.ne_brace]
    exact ih hrest

/-- In accepted text the search finds the objects inside the value that have the key. -/
theorem objectsIn_of_reads {part : Part} {s rest : List Char} (h : Reads part s rest)
    (hrest : Tidy .closed rest) :
    objectsIn marker s = part.values.filterMap (owned? marker) ++ objectsIn marker rest := by
  induction h with
  | skip hskip _ ih =>
    rw [objectsIn_cons, ih hrest]
    rcases hskip with hskip | rfl
    · exact (Json.isSpace_ne hskip).2
    · decide
  | @scalar v _ _ _ hv _ _ hscan =>
    rw [objectsIn_of_scans hscan]
    cases v <;> first | rfl | cases hv
  | string hcs =>
    rw [objectsIn_cons (by decide), objectsIn_of_quoted ha hcs hrest]
    rfl
  | array _ ih =>
    rw [objectsIn_cons (by decide), ih hrest]
    rfl
  | object hread _ ih =>
    rw [objectsIn_brace, markedObject?_eq_owned? hread, ih hrest, ← List.append_assoc]
    congr 1
    rw [Part.values, Part.values, Json.values, List.filterMap_cons]
    cases owned? marker _ <;> rfl
  | endItems => exact objectsIn_cons (by decide) _
  | endMembers => exact objectsIn_cons (by decide) _
  | item _ h' ih ih' =>
    rw [ih (h'.tidy hrest), ih' hrest, ← List.append_assoc, ← List.filterMap_append]
    rfl
  | member hkey hw h h' ih ih' =>
    have hvalue := h.tidy (h'.tidy hrest)
    rw [objectsIn_cons (by decide), objectsIn_of_quoted ha hkey (hvalue.colon hw),
      objectsIn_append fun c hc => (Json.isSpace_ne (hw c hc)).2, objectsIn_cons (by decide),
      ih (h'.tidy hrest), ih' hrest, ← List.append_assoc, ← List.filterMap_append]
    rfl

end Marker

end TestReport
