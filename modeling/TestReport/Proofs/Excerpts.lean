import TestReport.Proofs.Members
import TestReport.Proofs.Plain

/-!
# Excerpts of values

An excerpt of a value has lost members of its records, at any depth, and may have members that the
records pass over (`Shape.IsExcerpt`). Nothing else about it is different: items of lists stay, and
so does whatever is no record.

An excerpt of a value in plain form is read when no record asks for its fields
(`Shape.exists_excerpted`). What is read then is known key by key: a field that is no record reads
as it stands in the whole value, if it is there (`Excerpted.get?_of_isWhole`), and a field with
records in it reads as that excerpt of it does (`Excerpted.map_get?`).
-/

namespace TestReport.Json

namespace Shape

/-! ## What an excerpt is -/

/-- What a member of an excerpt may be: of a field, an excerpt of its value; of what the record
keeps, a member of the whole record; and anything where it is passed over. -/
def MemberExcerpt (keepsOthers : Bool) (fields : List (Slot × (Json → Json → Prop)))
    (whole : Json) (m : String × Json) : Prop :=
  match slotFor? fields m.1 with
  | none => keepsOthers = true → whole.get? m.1 = some m.2
  | some (_, excerpt) => ∃ v, whole.get? m.1 = some v ∧ excerpt v m.2

mutual

/-- Whether the second value is an excerpt of the first. -/
def IsExcerpt : Shape → Json → Json → Prop
  | any, v, w | text _ _, v, w | flag, v, w | float, v, w | nat _ _, v, w | numberOrText _, v, w
  | word _, v, w => w = v
  | optional inner, v, w => v = .null ∧ w = .null ∨ v ≠ .null ∧ IsExcerpt inner v w
  | list inner, v, w =>
    ∃ items kept, v = .arr items ∧ w = .arr kept ∧ List.Forall₂ (IsExcerpt inner) items kept
  | record layout fields, v, w =>
    ∃ kept, w = .obj kept ∧ (kept.map (·.1)).Nodup ∧
      ∀ m ∈ kept, MemberExcerpt layout.keepsOthers (excerpts fields) v m

/-- The fields of a record with what is an excerpt of them. -/
def excerpts : List (Slot × Shape) → List (Slot × (Json → Json → Prop))
  | [] => []
  | (slot, shape) :: fields => (slot, IsExcerpt shape) :: excerpts fields

end

theorem slotFor?_excerpts (fields : List (Slot × Shape)) (key : String) :
    slotFor? (excerpts fields) key = (slotFor? fields key).map fun f => (f.1, f.2.IsExcerpt) := by
  have hmap : excerpts fields = fields.map fun f => (f.1, f.2.IsExcerpt) := by
    induction fields with
    | nil => rfl
    | cons f fields ih => rw [excerpts, ih]; rfl
  rw [hmap]
  exact List.find?_map ..

theorem memberExcerpt_iff_of_eq_some {keepsOthers : Bool} {fields : List (Slot × Shape)}
    {whole : Json} {key : String} {w : Json} {slot : Slot} {shape : Shape}
    (h : slotFor? fields key = some (slot, shape)) :
    MemberExcerpt keepsOthers (excerpts fields) whole (key, w) ↔
      ∃ v, whole.get? key = some v ∧ shape.IsExcerpt v w := by
  unfold MemberExcerpt
  rw [slotFor?_excerpts, h]
  rfl

theorem memberExcerpt_iff_of_eq_none {keepsOthers : Bool} {fields : List (Slot × Shape)}
    {whole : Json} {key : String} {w : Json} (h : slotFor? fields key = none) :
    MemberExcerpt keepsOthers (excerpts fields) whole (key, w) ↔
      (keepsOthers = true → whole.get? key = some w) := by
  unfold MemberExcerpt
  rw [slotFor?_excerpts, h]
  rfl

/-! ## Values without parts -/

/-- A shape without records, whose values have no excerpts but themselves. -/
def IsWhole (shape : Shape) : Prop :=
  ∀ v w, shape.IsExcerpt v w → w = v

@[simp] theorem isWhole_any : any.IsWhole := fun _ _ h => h

@[simp] theorem isWhole_string : string.IsWhole := fun _ _ h => h

@[simp] theorem isWhole_flag : flag.IsWhole := fun _ _ h => h

@[simp] theorem isWhole_float : float.IsWhole := fun _ _ h => h

@[simp] theorem isWhole_words : words.IsWhole := fun _ _ h => h

@[simp] theorem isWhole_count : count.IsWhole := fun _ _ h => h

@[simp] theorem isWhole_word32 : word32.IsWhole := fun _ _ h => h

@[simp] theorem isWhole_instant : instant.IsWhole := fun _ _ h => h

@[simp] theorem isWhole_word (vocabulary : Vocabulary) : (word vocabulary).IsWhole := fun _ _ h => h

theorem IsWhole.optional {inner : Shape} (h : inner.IsWhole) : inner.optional.IsWhole := by
  rintro v w (⟨rfl, rfl⟩ | ⟨-, hinner⟩)
  · rfl
  · exact h v w hinner

@[simp] theorem isWhole_optional_any : any.optional.IsWhole := isWhole_any.optional

@[simp] theorem isWhole_optionalString : optionalString.IsWhole := isWhole_string.optional

/-! ## Reading excerpts -/

/-- Whether all excerpts of values in plain form can be read. -/
def ReadsExcerpts (shape : Shape) : Prop :=
  ∀ v w, shape.IsPlain v → shape.IsExcerpt v w → ∃ p, shape.read w = .ok p

theorem IsWhole.readsExcerpts {shape : Shape} (h : shape.IsWhole) : shape.ReadsExcerpts := by
  intro v w hplain hexcerpt
  obtain rfl := h v w hexcerpt
  exact ⟨w, hplain⟩

theorem isPlain_optional_iff {inner : Shape} {v : Json} (h : v ≠ .null) :
    inner.optional.IsPlain v ↔ inner.IsPlain v := by
  unfold IsPlain
  cases v with
  | null => exact absurd rfl h
  | _ => simp only [read]

theorem ReadsExcerpts.optional {inner : Shape} (h : inner.ReadsExcerpts) :
    inner.optional.ReadsExcerpts := by
  rintro v w hplain (⟨rfl, rfl⟩ | ⟨hv, hinner⟩)
  · exact ⟨.null, rfl⟩
  · obtain ⟨p, hp⟩ := h v w ((isPlain_optional_iff hv).1 hplain) hinner
    cases w with
    | null => exact ⟨.null, rfl⟩
    | _ => exact ⟨p, hp⟩

theorem read_list_eq_ok_iff {inner : Shape} {items : List Json} {p : Json} :
    inner.list.read (.arr items) = .ok p ↔
      ∃ values, p = .arr values ∧ List.Forall₂ (fun w p => inner.read w = .ok p) items values := by
  simp only [← mapM_eq_ok_iff, read]
  cases items.mapM inner.read <;> simp [bind, Except.bind, pure, Except.pure, eq_comm]

theorem ReadsExcerpts.list {inner : Shape} (h : inner.ReadsExcerpts) :
    inner.list.ReadsExcerpts := by
  rintro v w hplain ⟨items, kept, rfl, rfl, hitems⟩
  rw [isPlain_list_iff] at hplain
  have hvalues : ∃ values, List.Forall₂ (fun w p => inner.read w = .ok p) kept values := by
    induction hitems with
    | nil => exact ⟨[], .nil⟩
    | cons hitem _ ih =>
      obtain ⟨hfirst, hrest⟩ := List.forall_mem_cons.1 hplain
      obtain ⟨p, hp⟩ := h _ _ hfirst hitem
      obtain ⟨values, hvalues⟩ := ih hrest
      exact ⟨p :: values, .cons hp hvalues⟩
  obtain ⟨values, hvalues⟩ := hvalues
  exact ⟨.arr values, read_list_eq_ok_iff.2 ⟨values, rfl, hvalues⟩⟩

end Shape

/-! ## Records -/

open Shape

/-- What is read of an excerpt of a record. Keys are there once, and what is found under a key is
read out of what the excerpt has there. -/
structure Excerpted (layout : Layout) (fields : List (Slot × Shape)) (v w p : Json) : Prop where
  isPlain : (record layout fields).IsPlain v
  read_eq : (record layout fields).read w = .ok p
  nodup_keys : ((p.members?.getD []).map (·.1)).Nodup
  get?_eq : ∀ key, p.get? key = (w.get? key).bind (memberRead layout.keepsOthers fields key)
  memberExcerpt : ∀ key u, w.get? key = some u →
    MemberExcerpt layout.keepsOthers (excerpts fields) v (key, u)

variable {layout : Layout} {fields : List (Slot × Shape)} {slot : Slot} {inner : Shape}
  {v w p : Json} {key : String}

theorem slotFor?_eq_some {α : Type} {fields : List (Slot × α)} {f : Slot × α}
    (h : slotFor? fields key = some f) : f ∈ fields ∧ f.1.answersTo key = true := by
  unfold slotFor? at h
  exact ⟨List.mem_of_find?_eq_some h, by simpa using List.find?_some h⟩

theorem keeps_of_get? {u : Json} (hplain : (record layout fields).IsPlain v)
    (hu : v.get? key = some u) : Keeps layout.keepsOthers fields (key, u) := by
  cases v with
  | obj members => exact keeps_of_isPlain_record hplain _ (mem_of_lookup hu)
  | _ => cases hu

theorem exists_obj_of_read_record {layout : Layout} {fields : List (Slot × Shape)} {q : Json}
    (h : (Shape.record layout fields).read v = .ok q) : ∃ members, q = .obj members := by
  simp only [Shape.read, readRecord] at h
  split at h
  · obtain ⟨found, -, h⟩ := bind_eq_ok.1 h
    split at h
    · cases h
    · exact ⟨found, (Except.ok.inj h).symm⟩
  · split at h
    · cases h
    · obtain ⟨found, -, h⟩ := bind_eq_ok.1 h
      split at h
      · cases h
      · split at h
        · cases h
        · exact ⟨found, (Except.ok.inj h).symm⟩
  · cases h

theorem exists_excerpted (hrequired : ∀ f ∈ fields, f.1.required = false)
    (hfields : ∀ f ∈ fields, f.2.ReadsExcerpts) (hplain : (record layout fields).IsPlain v)
    (h : (record layout fields).IsExcerpt v w) : ∃ p, Excerpted layout fields v w p := by
  obtain ⟨kept, rfl, hnodup, hkept⟩ := h
  have hread : ∀ m ∈ kept, ∀ slot shape, slotFor? fields m.1 = some (slot, shape) →
      slot.name = m.1 ∧ ∃ p, shape.read m.2 = .ok p := by
    -- A field of the excerpt is one of the whole record, which is plain: it goes by its own name.
    intro m hm slot shape hslot
    obtain ⟨u, hu, hexcerpt⟩ := (memberExcerpt_iff_of_eq_some hslot).1 (hkept m hm)
    obtain ⟨hname, hplain⟩ := (keeps_iff_of_eq_some hslot).1 (keeps_of_get? hplain hu)
    exact ⟨hname, hfields _ (slotFor?_eq_some hslot).1 u m.2 hplain hexcerpt⟩
  have hfound : readFields layout.keepsOthers (readers fields) [] kept = .ok _ :=
    readFields_eq_filterMap hnodup (fun _ _ => List.not_mem_nil) hread
  refine ⟨.obj (kept.filterMap fun m : String × Json =>
    (memberRead layout.keepsOthers fields m.1 m.2).map (m.1, ·)), ?_⟩
  exact
    { isPlain := hplain
      read_eq := by
        simp only [Shape.read, readRecord, hfound, missing?_eq_none hrequired, bind, Except.bind,
          pure, Except.pure]
      nodup_keys := (keys_filterMap_sublist _ kept).nodup hnodup
      get?_eq := lookup_filterMap_snd _ hnodup
      memberExcerpt := fun key u hu => hkept (key, u) (mem_of_lookup hu) }

theorem Shape.readsExcerpts_record (hrequired : ∀ f ∈ fields, f.1.required = false)
    (hfields : ∀ f ∈ fields, f.2.ReadsExcerpts) : (record layout fields).ReadsExcerpts := by
  intro v w hplain h
  obtain ⟨p, hp⟩ := exists_excerpted hrequired hfields hplain h
  exact ⟨p, hp.read_eq⟩

namespace Excerpted

/-- A field is either gone, or an excerpt of it is read. -/
theorem get?_field (h : Excerpted layout fields v w p)
    (hslot : slotFor? fields key = some (slot, inner)) :
    w.get? key = none ∧ p.get? key = none ∨
      ∃ whole kept, v.get? key = some whole ∧ w.get? key = some kept ∧ inner.IsPlain whole ∧
        inner.IsExcerpt whole kept ∧ p.get? key = (inner.read kept).toOption := by
  have hget := h.get?_eq key
  cases hkept : w.get? key with
  | none =>
    rw [hkept] at hget
    exact .inl ⟨rfl, hget⟩
  | some kept =>
    obtain ⟨whole, hwhole, hexcerpt⟩ :=
      (memberExcerpt_iff_of_eq_some hslot).1 (h.memberExcerpt key kept hkept)
    have hplain := ((keeps_iff_of_eq_some hslot).1 (keeps_of_get? h.isPlain hwhole)).2
    rw [hkept, Option.bind_some, memberRead, hslot] at hget
    exact .inr ⟨whole, kept, hwhole, rfl, hplain, hexcerpt, hget⟩

/-- What is no field is read only where it is kept, as it stands in the whole record. -/
theorem get?_of_slotFor?_eq_none (h : Excerpted layout fields v w p)
    (hslot : slotFor? fields key = none) :
    p.get? key = if (w.get? key).isSome then v.get? key else none := by
  have hget := h.get?_eq key
  cases hkept : w.get? key with
  | none =>
    rw [hkept] at hget
    exact hget
  | some kept =>
    have hmember := (memberExcerpt_iff_of_eq_none hslot).1 (h.memberExcerpt key kept hkept)
    have hread : p.get? key = if layout.keepsOthers then some kept else none := by
      rw [hget, hkept, Option.bind_some, memberRead, hslot]
    rw [hread, Option.isSome_some, if_pos rfl]
    cases hothers : layout.keepsOthers with
    | true => exact (hmember hothers).symm
    | false =>
      refine (Option.eq_none_iff_forall_ne_some.2 fun u hu => ?_).symm
      have hkeeps := (keeps_iff_of_eq_none hslot).1 (keeps_of_get? h.isPlain hu)
      rw [hothers] at hkeeps
      cases hkeeps

/-- What is read under a key without parts is what the whole record has there, if it is not gone. -/
theorem get?_of_isWhole (h : Excerpted layout fields v w p)
    (hwhole : ∀ f ∈ fields, f.1.answersTo key = true → f.2.IsWhole) :
    p.get? key = if (w.get? key).isSome then v.get? key else none := by
  cases hslot : slotFor? fields key with
  | none => exact h.get?_of_slotFor?_eq_none hslot
  | some f =>
    obtain ⟨hf, hanswers⟩ := slotFor?_eq_some hslot
    rcases h.get?_field hslot with ⟨hw, hp⟩ | ⟨whole, kept, hv, hw, hplain, hexcerpt, hp⟩
    · rw [hw, hp]
      rfl
    · obtain rfl := hwhole f hf hanswers whole kept hexcerpt
      rw [hw, hp, hv, hplain]
      rfl

/-- What is built out of a field with parts is what is built out of that excerpt of it. -/
theorem map_get? {β : Type} {build part : Json → β} (h : Excerpted layout fields v w p)
    (hslot : slotFor? fields key = some (slot, inner))
    (hpart : ∀ whole kept, v.get? key = some whole → inner.IsExcerpt whole kept →
      (inner.read kept).map build = .ok (part kept)) :
    (p.get? key).map build = (w.get? key).map part := by
  rcases h.get?_field hslot with ⟨hw, hp⟩ | ⟨whole, kept, hv, hw, -, hexcerpt, hp⟩
  · rw [hw, hp]
    rfl
  · obtain ⟨q, hread, hbuilt⟩ := map_eq_ok.1 (hpart whole kept hv hexcerpt)
    rw [hw, hp, hread]
    exact congrArg some hbuilt

end Excerpted

/-! ## Lists -/

/-- The items of a list are built one by one. -/
theorem map_read_list {α β : Type} {build : Json → β} {part : α → Json → β} {write : α → Json}
    {xs : List α}
    (hpart : ∀ x ∈ xs, ∀ w, inner.IsExcerpt (write x) w → (inner.read w).map build = .ok (part x w))
    (h : inner.list.IsExcerpt (.arr (xs.map write)) w) :
    (inner.list.read w).map (fun q => (q.items?.getD []).map build) =
      .ok (List.zipWith part xs (w.items?.getD [])) := by
  obtain ⟨items, kept, heq, rfl, hitems⟩ := h
  obtain rfl := Json.arr.inj heq
  have hvalues : ∃ values, List.Forall₂ (fun w q => inner.read w = .ok q) kept values ∧
      values.map build = List.zipWith part xs kept := by
    clear heq
    induction xs generalizing kept with
    | nil =>
      cases hitems
      exact ⟨[], .nil, rfl⟩
    | cons x xs ih =>
      obtain ⟨hx, hxs⟩ := List.forall_mem_cons.1 hpart
      obtain ⟨u, rest, hu, hrest, rfl⟩ := List.forall₂_cons_left_iff.1 hitems
      obtain ⟨values, hread, hbuilt⟩ := ih hxs rest hrest
      obtain ⟨q, hq, hfirst⟩ := map_eq_ok.1 (hx u hu)
      refine ⟨q :: values, .cons hq hread, ?_⟩
      rw [List.map_cons, List.zipWith_cons_cons, hbuilt, hfirst]
  obtain ⟨values, hread, hbuilt⟩ := hvalues
  exact map_eq_ok.2 ⟨_, Shape.read_list_eq_ok_iff.2 ⟨values, rfl, hread⟩, hbuilt⟩

end TestReport.Json
