import TestReport.Proofs.Instant
import TestReport.Proofs.Tokens
import TestReport.Report.Wire
import Mathlib.Data.List.Forall2

/-!
# Values in plain form

Reading takes a value to the plain form of a shape, and what is in plain form already it leaves as
it is (`Shape.IsPlain`). There is one lemma for each kind of shape. A record is in plain form when
its members are: every key is there once, and every member is either one that the record keeps
without looking at it, or has the name of a field and a value in the plain form of that field
(`Shape.isPlain_record`).

So whether an object is in plain form can be seen member by member, in whatever order they stand.
-/

namespace TestReport.Json

/-- A list is read if each of its items is. -/
theorem mapM_eq_ok_iff {ε α β : Type} {read : α → Except ε β} {items : List α} {values : List β} :
    items.mapM read = .ok values ↔ List.Forall₂ (fun v w => read v = .ok w) items values := by
  induction items generalizing values with
  | nil => cases values <;> simp [pure, Except.pure]
  | cons v items ih =>
    rw [List.mapM_cons]
    cases hv : read v with
    | error e => cases values <;> simp [bind, Except.bind, hv]
    | ok w =>
      cases hitems : items.mapM read with
      | error e => cases values <;> simp [bind, Except.bind, hv, ← ih, hitems]
      | ok ws => cases values <;> simp [bind, Except.bind, pure, Except.pure, hv, ← ih, hitems]

namespace Shape

/-! ## Single values -/

/-- A value that is in the plain form of a shape already: reading leaves it as it is. -/
def IsPlain (shape : Shape) (v : Json) : Prop :=
  shape.read v = .ok v

@[simp]
theorem isPlain_any (v : Json) : any.IsPlain v := rfl

@[simp]
theorem isPlain_string (s : String) : string.IsPlain (.str s) := rfl

@[simp]
theorem isPlain_flag (b : Bool) : flag.IsPlain (.bool b) := rfl

@[simp]
theorem isPlain_float (x : Float) : float.IsPlain (.num (.float x)) := rfl

theorem isPlain_nat {bound n : Nat} (h : n < bound) (expected : String) :
    (nat bound expected).IsPlain (.ofNat n) := by
  unfold IsPlain Json.ofNat
  simp only [read, readNat]
  exact if_pos ⟨Int.natCast_nonneg n, Int.ofNat_lt.2 h⟩

@[simp]
theorem isPlain_words (n : UInt64) : words.IsPlain (wordJson n) :=
  isPlain_nat n.toNat_lt "u64"

@[simp]
theorem isPlain_count (n : UInt64) : count.IsPlain (wordJson n) :=
  isPlain_nat n.toNat_lt "usize"

@[simp]
theorem isPlain_word32 (n : UInt32) : word32.IsPlain (.ofNat n.toNat) :=
  isPlain_nat n.toNat_lt "u32"

@[simp]
theorem isPlain_instant (t : Instant) : instant.IsPlain t.toJson := by
  unfold IsPlain instant Instant.toJson
  simp only [read, Instant.objection, Instant.read_text]

@[simp]
theorem isPlain_status (s : Status) : (word Status.vocabulary).IsPlain (.str s.name) := by
  cases s <;> rfl

@[simp]
theorem isPlain_suiteStatus (s : SuiteStatus) :
    (word SuiteStatus.vocabulary).IsPlain (.str s.name) := by
  cases s <;> rfl

theorem isPlain_optional {shape : Shape} {v : Json} (h : shape.IsPlain v) :
    shape.optional.IsPlain v := by
  unfold IsPlain at h ⊢
  cases v <;> simp_all only [read]

@[simp]
theorem isPlain_optional_any (v : Json) : any.optional.IsPlain v :=
  isPlain_optional (isPlain_any v)

@[simp]
theorem isPlain_optionalString (s : String) : optionalString.IsPlain (.str s) :=
  isPlain_optional (isPlain_string s)

theorem isPlain_list_iff {shape : Shape} {items : List Json} :
    shape.list.IsPlain (.arr items) ↔ ∀ v ∈ items, shape.IsPlain v := by
  have hread : shape.list.IsPlain (.arr items) ↔ items.mapM shape.read = .ok items := by
    unfold IsPlain
    simp only [read]
    cases items.mapM shape.read <;> simp [bind, Except.bind, pure, Except.pure]
  rw [hread, mapM_eq_ok_iff, List.forall₂_same]
  rfl

theorem isPlain_list {shape : Shape} {items : List Json} (h : ∀ v ∈ items, shape.IsPlain v) :
    shape.list.IsPlain (.arr items) :=
  isPlain_list_iff.2 h

/-! ## Records -/

theorem readers_eq_map (fields : List (Slot × Shape)) :
    readers fields = fields.map fun f => (f.1, f.2.read) := by
  induction fields with
  | nil => rfl
  | cons f fields ih => rw [readers, ih]; rfl

theorem slotFor?_readers (fields : List (Slot × Shape)) (key : String) :
    slotFor? (readers fields) key = (slotFor? fields key).map fun f => (f.1, f.2.read) := by
  rw [readers_eq_map]
  exact List.find?_map ..

/-- A member that reading a record with these fields leaves as it is. -/
def Keeps (keepsOthers : Bool) (fields : List (Slot × Shape)) (m : String × Json) : Prop :=
  match slotFor? fields m.1 with
  | none => keepsOthers = true
  | some (slot, shape) => slot.name = m.1 ∧ shape.IsPlain m.2

theorem keeps_iff_of_eq_some {keepsOthers : Bool} {fields : List (Slot × Shape)}
    {key : String} {v : Json} {slot : Slot} {shape : Shape}
    (h : slotFor? fields key = some (slot, shape)) :
    Keeps keepsOthers fields (key, v) ↔ slot.name = key ∧ shape.IsPlain v := by
  unfold Keeps
  rw [h]

theorem keeps_iff_of_eq_none {keepsOthers : Bool} {fields : List (Slot × Shape)}
    {key : String} {v : Json} (h : slotFor? fields key = none) :
    Keeps keepsOthers fields (key, v) ↔ keepsOthers = true := by
  unfold Keeps
  rw [h]

@[simp]
theorem keeps_nil (keepsOthers : Bool) (m : String × Json) :
    Keeps keepsOthers [] m ↔ keepsOthers = true :=
  Iff.rfl

@[simp]
theorem keeps_field_self (keepsOthers : Bool) (key : String) (shape : Shape)
    (fields : List (Slot × Shape)) (v : Json) :
    Keeps keepsOthers (field key shape :: fields) (key, v) ↔ shape.IsPlain v := by
  simp [Keeps, slotFor?, Slot.answersTo, field]

@[simp]
theorem keeps_field_of_ne (keepsOthers : Bool) {name key : String} (h : name ≠ key) (shape : Shape)
    (fields : List (Slot × Shape)) (v : Json) :
    Keeps keepsOthers (field name shape :: fields) (key, v) ↔
      Keeps keepsOthers fields (key, v) := by
  simp [Keeps, slotFor?, Slot.answersTo, field, h]

/-- What is read of a member of a record, if it is not passed over. -/
def memberRead (keepsOthers : Bool) (fields : List (Slot × Shape)) (key : String) (v : Json) :
    Option Json :=
  match slotFor? fields key with
  | none => if keepsOthers then some v else none
  | some (_, shape) => (shape.read v).toOption

/-- Members with different keys are read one by one, if each that is a field can be read and goes by
the name of the field. -/
theorem readFields_eq_filterMap {keepsOthers : Bool} {fields : List (Slot × Shape)}
    {members : List (String × Json)} {seen : List String}
    (hnodup : (members.map (·.1)).Nodup) (hseen : ∀ m ∈ members, m.1 ∉ seen)
    (hread : ∀ m ∈ members, ∀ slot shape, slotFor? fields m.1 = some (slot, shape) →
      slot.name = m.1 ∧ ∃ v, shape.read m.2 = .ok v) :
    readFields keepsOthers (readers fields) seen members =
      .ok (members.filterMap fun m => (memberRead keepsOthers fields m.1 m.2).map (m.1, ·)) := by
  induction members generalizing seen with
  | nil => rfl
  | cons m members ih =>
    obtain ⟨key, v⟩ := m
    obtain ⟨hkey, htail⟩ := List.nodup_cons.1 hnodup
    have hreadTail := fun m hm => hread m (List.mem_cons_of_mem (key, v) hm)
    unfold readFields
    rw [slotFor?_readers, List.filterMap_cons]
    cases hfound : slotFor? fields key with
    | none =>
      have hrest := ih htail (fun m hm => hseen m (List.mem_cons_of_mem _ hm)) hreadTail
      have hmember : memberRead keepsOthers fields key v =
          if keepsOthers then some v else none := by
        rw [memberRead, hfound]
      simp only [Option.map_none, hrest, hmember, bind, Except.bind, pure, Except.pure]
      cases keepsOthers <;> rfl
    | some field =>
      obtain ⟨slot, shape⟩ := field
      obtain ⟨hname, w, hw⟩ := hread _ List.mem_cons_self slot shape hfound
      obtain rfl : slot.name = key := hname
      have hfresh : seen.contains slot.name = false := by
        simpa using hseen _ List.mem_cons_self
      have hseen' : ∀ m ∈ members, m.1 ∉ slot.name :: seen := by
        intro m hm hmem
        rcases List.mem_cons.1 hmem with heq | hmem
        · exact hkey (List.mem_map.2 ⟨m, hm, heq⟩)
        · exact hseen m (List.mem_cons_of_mem _ hm) hmem
      have hrest := ih htail hseen' hreadTail
      have hmember : memberRead keepsOthers fields slot.name v = some w := by
        rw [memberRead, hfound]
        exact congrArg Except.toOption hw
      simp only [Option.map_some, hfresh, hw, hrest, hmember, bind, Except.bind, pure, Except.pure,
        Bool.false_eq_true, if_false]

/-- What reading a record keeps is read as it is. -/
theorem Keeps.memberRead_eq {keepsOthers : Bool} {fields : List (Slot × Shape)}
    {m : String × Json} (h : Keeps keepsOthers fields m) :
    memberRead keepsOthers fields m.1 m.2 = some m.2 := by
  unfold memberRead
  cases hfound : slotFor? fields m.1 with
  | none => exact if_pos ((keeps_iff_of_eq_none hfound).1 h)
  | some field => exact congrArg Except.toOption ((keeps_iff_of_eq_some hfound).1 h).2

theorem readFields_of_keeps {keepsOthers : Bool} {fields : List (Slot × Shape)}
    {members : List (String × Json)} (hnodup : (members.map (·.1)).Nodup)
    (hkeeps : ∀ m ∈ members, Keeps keepsOthers fields m) :
    readFields keepsOthers (readers fields) [] members = .ok members := by
  have hread : ∀ m ∈ members, ∀ slot shape, slotFor? fields m.1 = some (slot, shape) →
      slot.name = m.1 ∧ ∃ v, shape.read m.2 = .ok v := by
    intro m hm slot shape hslot
    obtain ⟨hname, hplain⟩ := (keeps_iff_of_eq_some hslot).1 (hkeeps m hm)
    exact ⟨hname, m.2, hplain⟩
  have hsame : members.filterMap
      (fun m => (memberRead keepsOthers fields m.1 m.2).map (m.1, ·)) = members := by
    refine (List.filterMap_congr fun m hm => ?_).trans List.filterMap_some
    rw [(hkeeps m hm).memberRead_eq]
    rfl
  rw [readFields_eq_filterMap hnodup (fun _ _ => List.not_mem_nil) hread, hsame]

theorem missing?_eq_none {fields : List (Slot × Shape)}
    (hrequired : ∀ f ∈ fields, f.1.required = false) (members : List (String × Json)) :
    missing? (readers fields) members = none := by
  unfold missing?
  rw [readers_eq_map, Option.map_eq_none_iff, List.find?_eq_none]
  intro f hf
  obtain ⟨field, hfield, rfl⟩ := List.mem_map.1 hf
  simp [hrequired field hfield]

/-- An object is in the plain form of a record when each of its members is and no field is
required. -/
theorem isPlain_record {layout : Layout} {fields : List (Slot × Shape)}
    {members : List (String × Json)} (hrequired : ∀ f ∈ fields, f.1.required = false)
    (hnodup : (members.map (·.1)).Nodup)
    (hkeeps : ∀ m ∈ members, Keeps layout.keepsOthers fields m) :
    (record layout fields).IsPlain (.obj members) := by
  unfold IsPlain
  simp only [read, readRecord, readFields_of_keeps hnodup hkeeps, missing?_eq_none hrequired, bind,
    Except.bind, pure, Except.pure]

theorem length_le_of_readFields {keepsOthers : Bool}
    {fields : List (Slot × (Json → Except Mismatch Json))} {seen : List String}
    {members found : List (String × Json)}
    (h : readFields keepsOthers fields seen members = .ok found) :
    found.length ≤ members.length := by
  induction members generalizing seen found with
  | nil =>
    cases h
    exact Nat.le_refl _
  | cons m members ih =>
    obtain ⟨key, v⟩ := m
    unfold readFields at h
    split at h
    · obtain ⟨rest, hrest, h⟩ := bind_eq_ok.1 h
      obtain rfl := Except.ok.inj h
      have hle := ih hrest
      split
      · exact Nat.succ_le_succ hle
      · exact Nat.le_succ_of_le hle
    · split at h
      · cases h
      · obtain ⟨w, -, h⟩ := bind_eq_ok.1 h
        obtain ⟨rest, hrest, h⟩ := bind_eq_ok.1 h
        obtain rfl := Except.ok.inj h
        exact Nat.succ_le_succ (ih hrest)

theorem keeps_of_readFields {keepsOthers : Bool} {fields : List (Slot × Shape)}
    {seen : List String} {members : List (String × Json)}
    (h : readFields keepsOthers (readers fields) seen members = .ok members) :
    ∀ m ∈ members, Keeps keepsOthers fields m := by
  induction members generalizing seen with
  | nil => simp
  | cons m members ih =>
    obtain ⟨key, v⟩ := m
    unfold readFields at h
    rw [slotFor?_readers] at h
    cases hfound : slotFor? fields key with
    | none =>
      rw [hfound] at h
      obtain ⟨rest, hrest, h⟩ := bind_eq_ok.1 h
      cases keepsOthers with
      | true =>
        obtain rfl : rest = members := (List.cons.inj (Except.ok.inj h)).2
        exact List.forall_mem_cons.2 ⟨(keeps_iff_of_eq_none hfound).2 rfl, ih hrest⟩
      | false =>
        -- What is passed over is missing in what is found.
        obtain rfl : rest = (key, v) :: members := Except.ok.inj h
        exact absurd (length_le_of_readFields hrest) (Nat.not_succ_le_self _)
    | some field =>
      obtain ⟨slot, shape⟩ := field
      rw [hfound] at h
      simp only [Option.map_some] at h
      split at h
      · cases h
      · obtain ⟨w, hv, h⟩ := bind_eq_ok.1 h
        obtain ⟨rest, hrest, h⟩ := bind_eq_ok.1 h
        obtain ⟨hfirst, rfl⟩ := List.cons.inj (Except.ok.inj h)
        obtain ⟨hname, rfl⟩ := Prod.mk.inj hfirst
        exact List.forall_mem_cons.2 ⟨(keeps_iff_of_eq_some hfound).2 ⟨hname, hv⟩, ih hrest⟩

/-- What an object in the plain form of a record has is in plain form too. -/
theorem keeps_of_isPlain_record {layout : Layout} {fields : List (Slot × Shape)}
    {members : List (String × Json)} (h : (record layout fields).IsPlain (.obj members)) :
    ∀ m ∈ members, Keeps layout.keepsOthers fields m := by
  unfold IsPlain at h
  simp only [read, readRecord] at h
  obtain ⟨found, hfields, h⟩ := bind_eq_ok.1 h
  split at h
  · cases h
  · obtain rfl : found = members := Json.obj.inj (Except.ok.inj h)
    exact keeps_of_readFields hfields

end Shape

end TestReport.Json
