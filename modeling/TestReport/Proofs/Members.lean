import TestReport.Json.Basic

/-!
# Sorted members

What inserting by key does to a list of members that is sorted by key. A key goes to the front or to
the end where it is the least or the greatest, sorting what is sorted changes nothing
(`sortMembers_of_sorted`), and taking members away by key commutes with inserting others
(`filter_insert`).

`insertAll` inserts one member after another. Keys that are not inserted keep what was there
(`lookup_insertAll`), and taking the old members away again leaves the new ones
(`filter_insertAll`). Of the members with one key the last is found (`lookup_insertAll_eq`).

Members are known by what is found under each key: but for their order where their keys are
different (`perm_of_lookup_eq`), and altogether where they are sorted (`Sorted.eq_of_lookup_eq`). So
two ways to build them can be compared key by key.
-/

namespace TestReport.Json

variable {α : Type}

/-! ## One member -/

theorem mem_insert {key : String} {value : α} {members : List (String × α)} {m : String × α}
    (h : m ∈ insert key value members) : m = (key, value) ∨ m ∈ members := by
  induction members with
  | nil => exact .inl (List.mem_singleton.1 h)
  | cons first rest ih =>
    unfold insert at h
    split at h
    · exact (List.mem_cons.1 h).imp_right (List.mem_cons_of_mem _)
    · split at h
      · exact List.mem_cons.1 h
      · rcases List.mem_cons.1 h with rfl | h
        · exact .inr List.mem_cons_self
        · exact (ih h).imp_right (List.mem_cons_of_mem _)

theorem Sorted.nodup_keys {members : List (String × α)} (h : Sorted members) :
    (members.map (·.1)).Nodup := by
  unfold Sorted at h
  refine List.pairwise_map.2 (h.imp ?_)
  intro a b hlt heq
  exact String.lt_irrefl b.1 (heq ▸ hlt)

theorem mem_keys_sortMembers {key : String} {members : List (String × α)} :
    key ∈ (sortMembers members).map (·.1) ↔ key ∈ members.map (·.1) := by
  suffices ∀ sorted : List (String × α),
      key ∈ (members.foldl (fun sorted m => insert m.1 m.2 sorted) sorted).map (·.1) ↔
        key ∈ sorted.map (·.1) ∨ key ∈ members.map (·.1) by
    simpa [sortMembers] using this []
  induction members with
  | nil => simp
  | cons m rest ih =>
    intro sorted
    rw [List.foldl_cons, ih, mem_keys_insert, List.map_cons, List.mem_cons, or_assoc, or_left_comm]

theorem isSome_lookup_iff {key : String} {members : List (String × α)} :
    (members.lookup key).isSome = true ↔ key ∈ members.map (·.1) := by
  rw [List.lookup_isSome_iff]
  constructor
  · rintro ⟨m, hm, hkey⟩
    rw [eq_of_beq hkey]
    exact List.mem_map_of_mem hm
  · intro h
    obtain ⟨m, hm, rfl⟩ := List.mem_map.1 h
    exact ⟨m, hm, beq_self_eq_true m.1⟩

/-- A key greater than all others goes to the end. -/
theorem insert_of_forall_lt {key : String} {members : List (String × α)}
    (h : ∀ m ∈ members, m.1 < key) (value : α) :
    insert key value members = members ++ [(key, value)] := by
  induction members with
  | nil => rfl
  | cons first rest ih =>
    have hlt : first.1 < key := h first List.mem_cons_self
    have hne : key ≠ first.1 := fun heq => String.lt_irrefl _ (heq ▸ hlt)
    unfold insert
    rw [if_neg hne, if_neg (String.lt_asymm hlt), ih fun m hm => h m (List.mem_cons_of_mem _ hm)]
    rfl

theorem sortMembers_of_sorted {members : List (String × α)} (h : Sorted members) :
    sortMembers members = members := by
  suffices ∀ sorted rest : List (String × α), Sorted (sorted ++ rest) →
      rest.foldl (fun sorted m => insert m.1 m.2 sorted) sorted = sorted ++ rest from
    this [] members h
  intro sorted rest
  induction rest generalizing sorted with
  | nil => simp
  | cons m rest ih =>
    intro h
    have hlt : ∀ first ∈ sorted, first.1 < m.1 := fun first hfirst =>
      (List.pairwise_append.1 h).2.2 first hfirst m List.mem_cons_self
    rw [List.append_cons] at h ⊢
    rw [List.foldl_cons, insert_of_forall_lt hlt m.2]
    exact ih (sorted ++ [m]) h

/-- A key less than all others goes to the front. -/
theorem insert_of_lt_forall {key : String} {members : List (String × α)}
    (h : ∀ m ∈ members, key < m.1) (value : α) :
    insert key value members = (key, value) :: members := by
  cases members with
  | nil => rfl
  | cons first rest =>
    have hlt : key < first.1 := h first List.mem_cons_self
    have hne : key ≠ first.1 := fun heq => String.lt_irrefl _ (heq ▸ hlt)
    unfold insert
    rw [if_neg hne, if_pos hlt]

/-- Taking away what is not wanted and inserting what is wanted can change places. -/
theorem filter_insert {p : String → Bool} {key : String} (hkey : p key = true) (value : α)
    {members : List (String × α)} (h : Sorted members) :
    (insert key value members).filter (fun m => p m.1) =
      insert key value (members.filter fun m => p m.1) := by
  induction members with
  | nil => simp [insert, hkey]
  | cons first rest ih =>
    obtain ⟨hfirst, hrest⟩ := List.pairwise_cons.1 h
    obtain ⟨k, v⟩ := first
    by_cases heq : key = k
    · subst heq
      simp [insert, hkey]
    by_cases hlt : key < k
    · have hall : ∀ m ∈ ((k, v) :: rest).filter fun m => p m.1, key < m.1 := by
        intro m hm
        rcases List.mem_cons.1 (List.mem_filter.1 hm).1 with rfl | hm
        · exact hlt
        · exact String.lt_trans hlt (hfirst m hm)
      rw [insert_of_lt_forall hall]
      simp [insert, heq, hlt, hkey]
    · rw [insert, if_neg heq, if_neg hlt]
      cases hk : p k with
      | true =>
        have hkeep : ∀ ms : List (String × α), ((k, v) :: ms).filter (fun m => p m.1) =
            (k, v) :: ms.filter fun m => p m.1 := fun _ => List.filter_cons_of_pos hk
        rw [hkeep, hkeep, ih hrest, insert, if_neg heq, if_neg hlt]
      | false =>
        have hdrop : ∀ ms : List (String × α), ((k, v) :: ms).filter (fun m => p m.1) =
            ms.filter fun m => p m.1 := fun _ => List.filter_cons_of_neg (Bool.eq_false_iff.1 hk)
        rw [hdrop, hdrop, ih hrest]

/-! ## Inserting many members -/

/-- Members with others inserted one by one. -/
def insertAll (added members : List (String × α)) : List (String × α) :=
  added.foldl (fun ms m => insert m.1 m.2 ms) members

theorem Sorted.insertAll {members : List (String × α)} (h : Sorted members)
    (added : List (String × α)) : Sorted (insertAll added members) :=
  List.foldlRecOn added _ h fun _ h _ _ => insert_sorted h

theorem mem_insertAll {added members : List (String × α)} {m : String × α}
    (h : m ∈ insertAll added members) : m ∈ added ∨ m ∈ members := by
  unfold insertAll at h
  induction added generalizing members with
  | nil => exact .inr h
  | cons first added ih =>
    rcases ih h with h | h
    · exact .inl (List.mem_cons_of_mem _ h)
    · exact (mem_insert h).imp_left fun heq => List.mem_cons.2 (.inl heq)

theorem lookup_insertAll {key : String} {added : List (String × α)}
    (h : ∀ m ∈ added, m.1 ≠ key) (members : List (String × α)) :
    (insertAll added members).lookup key = members.lookup key :=
  List.foldlRecOn (motive := fun ms : List (String × α) => ms.lookup key = members.lookup key)
    added _ rfl fun _ heq m hm => (lookup_insert_of_ne (h m hm).symm m.2 _).trans heq

theorem filter_insertAll {p : String → Bool} {added members : List (String × α)}
    (hadded : ∀ m ∈ added, p m.1 = true) (h : Sorted members) :
    (insertAll added members).filter (fun m => p m.1) =
      insertAll added (members.filter fun m => p m.1) := by
  unfold insertAll
  induction added generalizing members with
  | nil => rfl
  | cons first added ih =>
    have hfirst := hadded first List.mem_cons_self
    rw [List.foldl_cons, List.foldl_cons, ← filter_insert hfirst first.2 h]
    exact ih (fun m hm => hadded m (List.mem_cons_of_mem _ hm)) (insert_sorted h)

/-! ## What is found under a key -/

theorem lookup_insert (key other : String) (value : α) (members : List (String × α)) :
    (insert key value members).lookup other = ((key, value) :: members).lookup other := by
  rw [List.lookup_cons]
  by_cases heq : other = key
  · rw [heq, lookup_insert_self, beq_self_eq_true]
  · rw [lookup_insert_of_ne heq, beq_eq_false_iff_ne.2 heq]

/-- What is found after others have been inserted: the last of them that has the key, or else what
was there before. -/
theorem lookup_insertAll_eq (added members : List (String × α)) (key : String) :
    (insertAll added members).lookup key = (added.reverse ++ members).lookup key := by
  unfold insertAll
  induction added generalizing members with
  | nil => rfl
  | cons m added ih =>
    rw [List.foldl_cons, ih, List.reverse_cons, List.append_assoc, List.lookup_append,
      List.lookup_append, lookup_insert]
    rfl

theorem lookup_sortMembers (members : List (String × α)) (key : String) :
    (sortMembers members).lookup key = members.reverse.lookup key :=
  (lookup_insertAll_eq members [] key).trans (by rw [List.append_nil])

theorem mem_of_lookup {members : List (String × α)} {key : String} {value : α}
    (h : members.lookup key = some value) : (key, value) ∈ members := by
  obtain ⟨before, after, rfl, -⟩ := List.lookup_eq_some_iff.1 h
  simp

theorem lookup_filter (p : String → Bool) (members : List (String × α)) (key : String) :
    (members.filter fun m => p m.1).lookup key = if p key then members.lookup key else none := by
  induction members with
  | nil => simp
  | cons m members ih =>
    obtain ⟨k, v⟩ := m
    by_cases heq : key = k
    · subst heq
      cases hp : p key <;> simp [hp, ih]
    · cases hp : p k <;> simp [List.lookup_cons, hp, ih, beq_eq_false_iff_ne.2 heq]

theorem lookup_map_snd {β : Type} (f : α → β) (members : List (String × α)) (key : String) :
    (members.map fun m => (m.1, f m.2)).lookup key = (members.lookup key).map f := by
  induction members with
  | nil => rfl
  | cons m members ih =>
    rw [List.map_cons, List.lookup_cons, List.lookup_cons, ih]
    cases key == m.1 <;> rfl

/-- Members whose values are changed or dropped, one by one, keep no key that was not there. -/
theorem keys_filterMap_sublist {β : Type} (f : String → α → Option β)
    (members : List (String × α)) :
    ((members.filterMap fun m => (f m.1 m.2).map (m.1, ·)).map (·.1)).Sublist
      (members.map (·.1)) := by
  induction members with
  | nil => exact .slnil
  | cons m members ih =>
    rw [List.filterMap_cons, List.map_cons]
    cases f m.1 m.2 with
    | none => exact ih.cons m.1
    | some b => exact ih.cons_cons m.1

theorem lookup_filterMap_snd {β : Type} (f : String → α → Option β) {members : List (String × α)}
    (h : (members.map (·.1)).Nodup) (key : String) :
    (members.filterMap fun m => (f m.1 m.2).map (m.1, ·)).lookup key =
      (members.lookup key).bind (f key) := by
  induction members with
  | nil => rfl
  | cons m members ih =>
    rw [List.map_cons, List.nodup_cons] at h
    obtain ⟨hm, hmembers⟩ := h
    have ih := ih hmembers
    rw [List.filterMap_cons, List.lookup_cons]
    by_cases heq : key = m.1
    · -- The other members do not have the key, so it is gone where the value is dropped.
      subst heq
      have hnone : members.lookup m.1 = none :=
        Option.not_isSome_iff_eq_none.1 (mt isSome_lookup_iff.1 hm)
      rw [hnone] at ih
      cases hf : f m.1 m.2 with
      | none => simpa [hf] using ih
      | some b => simp [hf]
    · have hne : (key == m.1) = false := beq_eq_false_iff_ne.2 heq
      cases hf : f m.1 m.2 with
      | none => simpa [hne] using ih
      | some b => simpa [hne, List.lookup_cons] using ih

/-- Where no key comes twice, a key has one value, and that is the one found under it. -/
theorem mem_iff_lookup_of_nodup {members : List (String × α)} (h : (members.map (·.1)).Nodup)
    {key : String} {value : α} : (key, value) ∈ members ↔ members.lookup key = some value := by
  induction members with
  | nil => simp
  | cons m members ih =>
    rw [List.map_cons, List.nodup_cons] at h
    obtain ⟨hm, hmembers⟩ := h
    rw [List.mem_cons, List.lookup_cons, ih hmembers]
    by_cases heq : key = m.1
    · have hnone : members.lookup key ≠ some value := fun hvalue =>
        hm (heq ▸ List.mem_map_of_mem ((ih hmembers).2 hvalue))
      simp [heq, heq ▸ hnone, Prod.ext_iff, eq_comm]
    · simp [heq, beq_eq_false_iff_ne.2 heq, Prod.ext_iff]

/-- Where no key comes twice, the order makes no difference to what is found. -/
theorem lookup_eq_of_perm {members others : List (String × α)} (h : (members.map (·.1)).Nodup)
    (hperm : members.Perm others) (key : String) : members.lookup key = others.lookup key := by
  refine Option.ext fun value => ?_
  rw [← mem_iff_lookup_of_nodup h, ← mem_iff_lookup_of_nodup ((hperm.map _).nodup_iff.1 h),
    hperm.mem_iff]

/-- Members with different keys are known, but for their order, by what is found under each key. -/
theorem perm_of_lookup_eq {members others : List (String × α)}
    (h : (members.map (·.1)).Nodup) (h' : (others.map (·.1)).Nodup)
    (hlookup : ∀ key, members.lookup key = others.lookup key) : members.Perm others := by
  have hnodup : ∀ {ms : List (String × α)}, (ms.map (·.1)).Nodup → ms.Nodup := fun hkeys =>
    (List.pairwise_map.1 hkeys).imp fun hne heq => hne (congrArg _ heq)
  refine (List.perm_ext_iff_of_nodup (hnodup h) (hnodup h')).2 ?_
  rintro ⟨key, value⟩
  rw [mem_iff_lookup_of_nodup h, mem_iff_lookup_of_nodup h', hlookup]

/-- Sorted members are known by what is found under each key. -/
theorem Sorted.eq_of_lookup_eq {members others : List (String × α)} (h : Sorted members)
    (h' : Sorted others) (hlookup : ∀ key, members.lookup key = others.lookup key) :
    members = others :=
  (perm_of_lookup_eq h.nodup_keys h'.nodup_keys hlookup).eq_of_pairwise
    (fun _ _ _ _ hlt hgt => absurd hgt (String.lt_asymm hlt)) h h'

end TestReport.Json
