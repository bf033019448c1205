import TestReport.Proofs.Extraction
import TestReport.Proofs.Plain
import TestReport.Jest
import Mathlib.Algebra.Ring.Nat

/-!
# How much a report can hold

Counts are words of 64 bits, so it matters that a report cannot hold more than its text has room
for. The measure is the number of arrays and objects in a value (`Json.weight`). Each of them takes
up a character of the text (`Json.Reads.weight_le`), and from there on none is added: sorting
members, lifting those of a nested object and reading a shape only lose some
(`Json.weight_canonical_le`, `membersWeight_liftMembers_le`, `Json.weight_le_of_read`).

Strings and scalars are left out, as the grammar does not say that a scalar takes up text. That does
no harm where the things to be counted are known by their fields, which only an object has
(`Json.countP_le_itemsWeight`).
-/

namespace TestReport

namespace Json

/-! ## Weights -/

/-- Whether a value is an array or an object. -/
def isContainer : Json → Bool
  | arr _ | obj _ => true
  | null | bool _ | num _ | str _ => false

/-- How many arrays and objects there are in a value, with itself. -/
def weight (v : Json) : Nat :=
  v.values.countP isContainer

/-- The weights of the items of an array together. -/
def itemsWeight (items : List Json) : Nat :=
  (items.map weight).sum

/-- The weights of the members of an object together. -/
def membersWeight (members : List (String × Json)) : Nat :=
  itemsWeight (members.map (·.2))

@[simp] theorem itemsWeight_nil : itemsWeight [] = 0 := rfl

@[simp] theorem itemsWeight_cons (v : Json) (items : List Json) :
    itemsWeight (v :: items) = v.weight + itemsWeight items := by
  simp [itemsWeight]

@[simp] theorem membersWeight_nil : membersWeight [] = 0 := rfl

@[simp] theorem membersWeight_cons (m : String × Json) (members : List (String × Json)) :
    membersWeight (m :: members) = m.2.weight + membersWeight members := by
  simp [membersWeight]

theorem countP_valuesOfItems (items : List Json) :
    (valuesOfItems items).countP isContainer = itemsWeight items := by
  induction items with
  | nil => rfl
  | cons v items ih => rw [valuesOfItems, List.countP_append, ih, itemsWeight_cons, weight]

theorem countP_valuesOfMembers (members : List (String × Json)) :
    (valuesOfMembers members).countP isContainer = membersWeight members := by
  induction members with
  | nil => rfl
  | cons m members ih => rw [valuesOfMembers, List.countP_append, ih, membersWeight_cons, weight]

@[simp] theorem weight_arr (items : List Json) : (arr items).weight = itemsWeight items + 1 := by
  rw [weight, values, List.countP_cons_of_pos rfl, countP_valuesOfItems]

@[simp] theorem weight_obj (members : List (String × Json)) :
    (obj members).weight = membersWeight members + 1 := by
  rw [weight, values, List.countP_cons_of_pos rfl, countP_valuesOfMembers]

@[simp] theorem weight_str (s : String) : (str s).weight = 0 := rfl

@[simp] theorem weight_num (n : Number) : (num n).weight = 0 := rfl

theorem IsScalar.weight_eq {v : Json} (h : v.IsScalar) : v.weight = 0 := by
  cases v <;> first | rfl | cases h

/-! ## Text that is read -/

/-- The weight of a part. -/
def Part.weight : Part → Nat
  | .value v => v.weight
  | .items vs => itemsWeight vs
  | .members ms => membersWeight ms

/-- Every array and every object takes a character of the text. -/
theorem Reads.weight_le {part : Part} {s rest : List Char} (h : Reads part s rest) :
    part.weight + rest.length ≤ s.length := by
  induction h with
  | skip _ _ ih =>
    rw [List.length_cons]
    omega
  | scalar hv _ _ hscan =>
    have hle := hscan.suffix.length_le
    simp only [Part.weight, hv.weight_eq]
    omega
  | string hcs =>
    have hle := hcs.suffix.length_le
    simp only [Part.weight, weight_str, List.length_cons]
    omega
  | array _ ih =>
    simp only [Part.weight, weight_arr, List.length_cons] at ih ⊢
    omega
  | object _ _ ih =>
    simp only [Part.weight, weight_obj, List.length_cons] at ih ⊢
    omega
  | endItems => simp [Part.weight]
  | endMembers => simp [Part.weight]
  | item _ _ ih ih' =>
    simp only [Part.weight, itemsWeight_cons] at ih ih' ⊢
    omega
  | member hkey _ _ _ ih ih' =>
    have hle := hkey.suffix.length_le
    simp only [Part.weight, membersWeight_cons, List.length_cons, List.length_append]
      at ih ih' hle ⊢
    omega

/-! ## Members that are sorted and lifted -/

theorem membersWeight_insert_le (key : String) (value : Json) (members : List (String × Json)) :
    membersWeight (insert key value members) ≤ value.weight + membersWeight members := by
  induction members with
  | nil => simp [insert]
  | cons m rest ih =>
    unfold insert
    split
    · simp only [membersWeight_cons]
      omega
    · split
      · simp only [membersWeight_cons]
        omega
      · simp only [membersWeight_cons]
        omega

theorem membersWeight_foldl_insert_le (members sorted : List (String × Json)) :
    membersWeight (members.foldl (fun sorted m => insert m.1 m.2 sorted) sorted) ≤
      membersWeight members + membersWeight sorted := by
  induction members generalizing sorted with
  | nil => simp
  | cons m rest ih =>
    have hinsert := membersWeight_insert_le m.1 m.2 sorted
    have hrest := ih (insert m.1 m.2 sorted)
    rw [List.foldl_cons, membersWeight_cons]
    omega

mutual

theorem weight_canonical_le : (v : Json) → v.canonical.weight ≤ v.weight
  | arr items => by
    rw [canonical, weight_arr, weight_arr]
    exact Nat.succ_le_succ (itemsWeight_canonicalItems_le items)
  | obj members => by
    have hsort := membersWeight_foldl_insert_le (canonicalMembers members) []
    have hmembers := membersWeight_canonicalMembers_le members
    rw [canonical, weight_obj, weight_obj, sortMembers]
    rw [membersWeight_nil] at hsort
    omega
  | null | bool _ | num _ | str _ => Nat.le_refl _

theorem itemsWeight_canonicalItems_le : (items : List Json) →
    itemsWeight (canonicalItems items) ≤ itemsWeight items
  | [] => Nat.le_refl _
  | v :: items => by
    have hv := weight_canonical_le v
    have hitems := itemsWeight_canonicalItems_le items
    rw [canonicalItems, itemsWeight_cons, itemsWeight_cons]
    omega

theorem membersWeight_canonicalMembers_le : (members : List (String × Json)) →
    membersWeight (canonicalMembers members) ≤ membersWeight members
  | [] => Nat.le_refl _
  | (key, v) :: members => by
    have hv := weight_canonical_le v
    have hmembers := membersWeight_canonicalMembers_le members
    simp only [canonicalMembers, membersWeight_cons]
    omega

end

theorem membersWeight_canonicalObject_le (members : List (String × Json)) :
    membersWeight (canonicalObject members) ≤ membersWeight members := by
  have hle := weight_canonical_le (obj members)
  rw [canonical, weight_obj, weight_obj] at hle
  exact Nat.le_of_succ_le_succ hle

theorem membersWeight_filter_le (p : String × Json → Bool) (members : List (String × Json)) :
    membersWeight (members.filter p) ≤ membersWeight members := by
  induction members with
  | nil => exact Nat.le_refl _
  | cons m rest ih =>
    rw [List.filter_cons]
    split <;> simp only [membersWeight_cons] <;> omega

/-- A member and those with other keys are different members. -/
theorem weight_add_le_of_lookup {key : String} {members : List (String × Json)} {v : Json}
    (h : members.lookup key = some v) :
    v.weight + membersWeight (members.filter (·.1 != key)) ≤ membersWeight members := by
  induction members with
  | nil => cases h
  | cons m rest ih =>
    obtain ⟨k, w⟩ := m
    by_cases hkey : key = k
    · subst hkey
      obtain rfl : w = v := by simpa using h
      have hrest := membersWeight_filter_le (·.1 != key) rest
      simp only [List.filter_cons, bne_self_eq_false, Bool.false_eq_true, if_false,
        membersWeight_cons]
      omega
    · have hlookup : rest.lookup key = some v := by
        simpa [List.lookup_cons, beq_eq_false_iff_ne.2 hkey] using h
      have hrest := ih hlookup
      have hkeep : (k != key) = true := by simpa using Ne.symm hkey
      simp only [List.filter_cons, hkeep, if_true, membersWeight_cons]
      omega

theorem weight_le_of_lookup {key : String} {members : List (String × Json)} {v : Json}
    (h : members.lookup key = some v) : v.weight ≤ membersWeight members := by
  have hle := weight_add_le_of_lookup h
  omega

/-! ## Shapes that are read -/

theorem itemsWeight_le_of_mapM {read : Json → Except Mismatch Json}
    (hread : ∀ v w, read v = .ok w → w.weight ≤ v.weight) {items items' : List Json}
    (h : items.mapM read = .ok items') : itemsWeight items' ≤ itemsWeight items := by
  induction items generalizing items' with
  | nil =>
    cases h
    exact Nat.le_refl _
  | cons v items ih =>
    rw [List.mapM_cons] at h
    obtain ⟨w, hw, htail⟩ := bind_eq_ok.1 h
    obtain ⟨ws, hws, hlast⟩ := bind_eq_ok.1 htail
    cases hlast
    rw [itemsWeight_cons, itemsWeight_cons]
    exact Nat.add_le_add (hread v w hw) (ih hws)

section Record

variable {fields : List (Slot × (Json → Except Mismatch Json))}
  (hfields : ∀ f ∈ fields, ∀ v w, f.2 v = .ok w → w.weight ≤ v.weight)

include hfields

theorem membersWeight_le_of_readFields {keepsOthers : Bool} {seen : List String}
    {members read : List (String × Json)}
    (h : readFields keepsOthers fields seen members = .ok read) :
    membersWeight read ≤ membersWeight members := by
  induction members generalizing seen read with
  | nil =>
    cases h
    exact Nat.le_refl _
  | cons m members ih =>
    obtain ⟨key, v⟩ := m
    unfold readFields at h
    rw [membersWeight_cons]
    split at h
    next =>
      obtain ⟨rest, hrest, hlast⟩ := bind_eq_ok.1 h
      have hle := ih hrest
      cases hlast
      cases keepsOthers <;> simp <;> omega
    next slot reader hslot =>
      split at h
      · cases h
      · obtain ⟨w, hw, htail⟩ := bind_eq_ok.1 h
        obtain ⟨rest, hrest, hlast⟩ := bind_eq_ok.1 htail
        cases hlast
        rw [membersWeight_cons]
        exact Nat.add_le_add (hfields _ (List.mem_of_find?_eq_some hslot) v w hw) (ih hrest)

theorem membersWeight_le_of_readItemsAsFields {items : List Json} {read : List (String × Json)}
    (h : readItemsAsFields fields items = .ok read) : membersWeight read ≤ itemsWeight items := by
  induction fields generalizing items read with
  | nil =>
    cases h
    exact Nat.zero_le _
  | cons f fields ih =>
    obtain ⟨slot, reader⟩ := f
    obtain ⟨hreader, hfields⟩ := List.forall_mem_cons.1 hfields
    cases items with
    | nil =>
      cases h
      exact Nat.zero_le _
    | cons v items =>
      unfold readItemsAsFields at h
      obtain ⟨w, hw, htail⟩ := bind_eq_ok.1 h
      obtain ⟨rest, hrest, hlast⟩ := bind_eq_ok.1 htail
      cases hlast
      rw [membersWeight_cons, itemsWeight_cons]
      exact Nat.add_le_add (hreader v w hw) (ih hfields hrest)

theorem weight_le_of_readRecord {layout : Layout} {v w : Json}
    (h : readRecord layout fields v = .ok w) : w.weight ≤ v.weight := by
  cases v with
  | obj members =>
    simp only [readRecord] at h
    obtain ⟨read, hread, hlast⟩ := bind_eq_ok.1 h
    have hle := membersWeight_le_of_readFields hfields hread
    split at hlast
    · cases hlast
    · cases hlast
      rw [weight_obj, weight_obj]
      exact Nat.succ_le_succ hle
  | arr items =>
    simp only [readRecord] at h
    split at h
    · cases h
    · obtain ⟨read, hread, hlast⟩ := bind_eq_ok.1 h
      have hle := membersWeight_le_of_readItemsAsFields hfields hread
      split at hlast
      · cases hlast
      · split at hlast
        · cases hlast
        · cases hlast
          rw [weight_obj, weight_arr]
          exact Nat.succ_le_succ hle
  | null | bool _ | num _ | str _ => cases h

end Record

theorem weight_eq_zero_of_meaning {vocabulary : Vocabulary} {word : String} {w : Json}
    (h : vocabulary.meaning word = .ok w) : w.weight = 0 := by
  unfold Vocabulary.meaning at h
  split at h <;> cases h
  rfl

mutual

/-- Reading a shape adds no array and no object. -/
theorem weight_le_of_read : (shape : Shape) → ∀ {v w : Json}, shape.read v = .ok w →
    w.weight ≤ v.weight
  | .any, v, w, h => by
    cases h
    exact Nat.le_refl _
  | .text expected objection, v, w, h => by
    simp only [Shape.read] at h
    split at h
    · split at h
      · cases h
      · cases h
        exact Nat.le_refl _
    · cases h
  | .flag, v, w, h => by
    simp only [Shape.read] at h
    split at h
    · cases h
      exact Nat.le_refl _
    · cases h
  | .float, v, w, h => by
    simp only [Shape.read] at h
    split at h
    · cases h
      exact Nat.zero_le _
    · cases h
  | .nat bound expected, v, w, h => by
    simp only [Shape.read] at h
    split at h
    · unfold readNat at h
      split at h
      · split at h
        · cases h
          exact Nat.le_refl _
        · cases h
      · cases h
    · cases h
  | .numberOrText name, v, w, h => by
    simp only [Shape.read] at h
    split at h
    · cases h
      exact Nat.zero_le _
    · cases h
      exact Nat.le_refl _
    · cases h
  | .word vocabulary, v, w, h => by
    have hword : w.weight = 0 := by
      simp only [Shape.read] at h
      split at h
      · exact weight_eq_zero_of_meaning h
      · obtain ⟨meaning, hmeaning, hlast⟩ := bind_eq_ok.1 h
        split at hlast
        · cases hlast
          exact weight_eq_zero_of_meaning hmeaning
        · cases hlast
      · cases h
      · cases h
    rw [hword]
    exact Nat.zero_le _
  | .optional inner, v, w, h => by
    simp only [Shape.read] at h
    split at h
    · cases h
      exact Nat.le_refl _
    · exact weight_le_of_read inner h
  | .list inner, v, w, h => by
    simp only [Shape.read] at h
    split at h
    · obtain ⟨items, hitems, hlast⟩ := bind_eq_ok.1 h
      cases hlast
      rw [weight_arr, weight_arr]
      exact Nat.succ_le_succ (itemsWeight_le_of_mapM (fun _ _ => weight_le_of_read inner) hitems)
    · cases h
  | .record layout fields, v, w, h =>
    weight_le_of_readRecord (weight_le_of_readers fields) h

theorem weight_le_of_readers : (fields : List (Slot × Shape)) →
    ∀ f ∈ Shape.readers fields, ∀ v w, f.2 v = .ok w → w.weight ≤ v.weight
  | [] => nofun
  | (slot, shape) :: fields => by
    rw [Shape.readers]
    exact List.forall_mem_cons.2 ⟨fun _ _ => weight_le_of_read shape, weight_le_of_readers fields⟩

end

theorem membersWeight_foldl_lift_le (inner members : List (String × Json)) :
    membersWeight (inner.foldl
        (fun ms m => if (ms.lookup m.1).isSome then ms else insert m.1 m.2 ms) members) ≤
      membersWeight inner + membersWeight members := by
  induction inner generalizing members with
  | nil => simp
  | cons m inner ih =>
    rw [List.foldl_cons, membersWeight_cons]
    split
    · have hrest := ih members
      omega
    · have hinsert := membersWeight_insert_le m.1 m.2 members
      have hrest := ih (insert m.1 m.2 members)
      omega

/-! ## Items under a key -/

theorem itemsWeight_itemsAt_le (v : Json) (key : String) :
    itemsWeight (v.itemsAt key) ≤ v.weight := by
  unfold itemsAt get?
  cases v with
  | obj members =>
    cases hlookup : members.lookup key with
    | none => simp [members?, hlookup]
    | some w =>
      have hle := weight_le_of_lookup hlookup
      cases w with
      | arr items =>
        simp only [members?, hlookup, items?, Option.bind_some, Option.getD_some, weight_arr,
          weight_obj] at hle ⊢
        omega
      | _ => simp [members?, hlookup, items?]
  | _ => simp [members?]

/-- What only objects have is had by no more of the items than their weight. -/
theorem countP_le_itemsWeight {p : Json → Bool} (hp : ∀ v, p v = true → 0 < v.weight)
    (items : List Json) : items.countP p ≤ itemsWeight items := by
  induction items with
  | nil => exact Nat.le_refl _
  | cons v items ih =>
    rw [List.countP_cons, itemsWeight_cons]
    split
    next hv =>
      have hpos := hp v hv
      omega
    next => omega

end Json

/-! ## Reports that are found -/

open Json (membersWeight itemsWeight)

theorem membersWeight_lt_of_findObject {output : List Char} {framework marker : String}
    {members : List (String × Json)} (h : findObject output framework marker = .ok members) :
    membersWeight members < output.length := by
  unfold findObject at h
  split at h
  · cases h
  next n _ =>
    split at h
    next found hfound =>
      cases h
      obtain ⟨c, hc, hmarked⟩ := List.exists_of_findSome?_eq_some hfound
      obtain ⟨written, ⟨-, rest, hread⟩, rfl⟩ := markedObject?_eq_some_iff.1 hmarked
      have htext := (Json.reads_of_readValue (Nat.le_refl _) hread).weight_le
      have hle := Json.membersWeight_canonicalObject_le written
      obtain ⟨t, -, hsuffix⟩ := exists_of_mem_candidates hc
      have hlength := hsuffix.length_le
      simp only [Json.Part.weight, Json.weight_obj] at htext
      omega
    next => split at h <;> cases h

/-- Lifting the members of an object takes them from where they were. -/
theorem membersWeight_liftMembers_le {key : String} {members lifted : List (String × Json)}
    (h : liftMembers key members = some lifted) : membersWeight lifted ≤ membersWeight members := by
  unfold liftMembers at h
  obtain ⟨inner, hinner, rfl⟩ := Option.map_eq_some_iff.1 h
  obtain ⟨v, hv, hmembers⟩ := Option.bind_eq_some_iff.1 hinner
  cases v with
  | obj ms =>
    obtain rfl : ms = inner := Option.some.inj hmembers
    have hsplit := Json.weight_add_le_of_lookup hv
    have hlift := Json.membersWeight_foldl_lift_le ms (members.filter (·.1 != key))
    rw [Json.weight_obj] at hsplit
    omega
  | _ => cases hmembers

theorem membersWeight_lt_of_locateReport {output : List Char} {members : List (String × Json)}
    (h : locateReport output = .ok members) : membersWeight members < output.length := by
  unfold locateReport at h
  split at h
  next found hfound =>
    split at h
    next lifted hlifted =>
      cases h
      exact Nat.lt_of_le_of_lt (membersWeight_liftMembers_le hlifted)
        (membersWeight_lt_of_findObject hfound)
    next => exact membersWeight_lt_of_findObject h
  next => exact membersWeight_lt_of_findObject h
  next => cases h

end TestReport
