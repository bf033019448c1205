import TestReport.Proofs.Members
import TestReport.Proofs.Plain

/-!
# Readings that agree

Two readings are alike if both fail, or if both succeed and what they give is related (`Alike`).
Which errors they fail with is left open, because a reading stops at the first thing that does not
fit, and which one is first can change with the order.

Steps that are alike make readings that are alike (`Alike.bind`). So reading a list does not depend
on its order (`Alike.mapM_of_perm`), and a record is read alike when one member is exchanged for
another value that is read alike (`Alike.read_record`).
-/

namespace TestReport.Json

/-! ## Alike readings -/

section Alike

variable {ε α β γ δ : Type}

/-- Both fail, or both give values that are related. -/
inductive Alike (R : α → β → Prop) : Except ε α → Except ε β → Prop
  | failed (e e' : ε) : Alike R (.error e) (.error e')
  | given {a : α} {b : β} (h : R a b) : Alike R (.ok a) (.ok b)

theorem Alike.refl (x : Except ε α) : Alike Eq x x := by
  cases x with
  | error e => exact .failed e e
  | ok a => exact .given rfl

theorem Alike.trans {R : α → α → Prop} {x y z : Except ε α} (hR : ∀ {a b c}, R a b → R b c → R a c)
    (hxy : Alike R x y) (hyz : Alike R y z) : Alike R x z := by
  cases hxy with
  | failed e e' =>
    cases hyz with
    | failed _ e'' => exact .failed e e''
  | given hab =>
    cases hyz with
    | given hbc => exact .given (hR hab hbc)

theorem Alike.bind {R : α → β → Prop} {S : γ → δ → Prop} {x : Except ε α} {y : Except ε β}
    {f : α → Except ε γ} {g : β → Except ε δ} (h : Alike R x y)
    (hfg : ∀ a b, R a b → Alike S (f a) (g b)) : Alike S (x >>= f) (y >>= g) := by
  cases h with
  | failed e e' => exact .failed e e'
  | given hab => exact hfg _ _ hab

theorem Alike.bind_self {S : γ → δ → Prop} (x : Except ε α) {f : α → Except ε γ}
    {g : α → Except ε δ} (hfg : ∀ a, Alike S (f a) (g a)) : Alike S (x >>= f) (x >>= g) :=
  (Alike.refl x).bind fun a _ heq => heq ▸ hfg a

theorem Alike.cases {R : α → β → Prop} {x : Except ε α} {y : Except ε β} (h : Alike R x y) :
    (∃ e e', x = .error e ∧ y = .error e') ∨ ∃ a b, x = .ok a ∧ y = .ok b ∧ R a b := by
  cases h with
  | failed e e' => exact .inl ⟨e, e', rfl, rfl⟩
  | given hab => exact .inr ⟨_, _, rfl, rfl, hab⟩

/-- A list is read alike in every order. -/
theorem Alike.mapM_of_perm {read : α → Except ε β} {items items' : List α}
    (h : items.Perm items') : Alike List.Perm (items.mapM read) (items'.mapM read) := by
  induction h with
  | nil => exact .given .nil
  | cons v _ ih =>
    rw [List.mapM_cons, List.mapM_cons]
    exact Alike.bind_self _ fun w => ih.bind fun ws ws' hws => .given (hws.cons w)
  | swap v w items =>
    simp only [List.mapM_cons]
    cases read v with
    | error e =>
      cases read w with
      | error e' => exact .failed e' e
      | ok _ => exact .failed e e
    | ok a =>
      cases read w with
      | error e' => exact .failed e' e'
      | ok b =>
        cases items.mapM read with
        | error e => exact .failed e e
        | ok ws => exact .given (List.Perm.swap a b ws)
  | trans _ _ ih ih' => exact ih.trans List.Perm.trans ih'

end Alike

/-! ## Records in which one member is exchanged -/

/-- Whether two lists of members differ in the value of one member at most, where the two values are
related. -/
def DifferAt (name : String) (R : Json → Json → Prop) (members members' : List (String × Json)) :
    Prop :=
  ∃ before after v w, R v w ∧ members = before ++ (name, v) :: after ∧
    members' = before ++ (name, w) :: after

variable {name : String} {R : Json → Json → Prop} {members members' : List (String × Json)}

theorem DifferAt.cons (h : DifferAt name R members members') (m : String × Json) :
    DifferAt name R (m :: members) (m :: members') := by
  obtain ⟨before, after, v, w, hR, rfl, rfl⟩ := h
  exact ⟨m :: before, after, v, w, hR, rfl, rfl⟩

theorem DifferAt.map_fst_eq (h : DifferAt name R members members') :
    members.map (·.1) = members'.map (·.1) := by
  obtain ⟨before, after, v, w, -, rfl, rfl⟩ := h
  simp

theorem DifferAt.lookup_eq (h : DifferAt name R members members') {key : String}
    (hne : key ≠ name) : members.lookup key = members'.lookup key := by
  obtain ⟨before, after, v, w, -, rfl, rfl⟩ := h
  simp only [List.lookup_append, List.lookup_cons, beq_eq_false_iff_ne.2 hne]

/-- Under the name itself the values are the same or related. -/
theorem DifferAt.lookup_self (h : DifferAt name R members members') :
    members.lookup name = members'.lookup name ∨
      ∃ v w, members.lookup name = some v ∧ members'.lookup name = some w ∧ R v w := by
  obtain ⟨before, after, v, w, hR, rfl, rfl⟩ := h
  cases hbefore : before.lookup name with
  | some u => exact .inl (by simp [List.lookup_append, hbefore])
  | none => exact .inr ⟨v, w, by simp [List.lookup_append, hbefore, hR]⟩

theorem missing?_congr {α : Type} (fields : List (Slot × α))
    (h : members.map (·.1) = members'.map (·.1)) :
    missing? fields members = missing? fields members' := by
  have hlookup : ∀ key, (members.lookup key).isNone = (members'.lookup key).isNone := by
    intro key
    rw [← Option.not_isSome, ← Option.not_isSome, Bool.eq_iff_iff]
    simp only [Bool.not_eq_true', Bool.eq_false_iff, ne_eq, isSome_lookup_iff, h]
  simp only [missing?, hlookup]

variable {keepsOthers : Bool} {fields : List (Slot × Shape)} {key : String} {slot : Slot}
  {inner : Shape} {v w : Json}

/-- The fields of a record are read alike when one member is exchanged. -/
theorem Alike.readFields (hslot : slotFor? fields key = some (slot, inner))
    (hname : slot.name = name) (h : Alike R (inner.read v) (inner.read w))
    (before after : List (String × Json)) (seen : List String) :
    Alike (DifferAt name R)
      (Json.readFields keepsOthers (Shape.readers fields) seen (before ++ (key, v) :: after))
      (Json.readFields keepsOthers (Shape.readers fields) seen (before ++ (key, w) :: after)) := by
  induction before generalizing seen with
  | nil =>
    have hread : slotFor? (Shape.readers fields) key = some (slot, inner.read) := by
      rw [Shape.slotFor?_readers, hslot, Option.map_some]
    simp only [List.nil_append, Json.readFields, hread]
    split
    · exact .failed _ _
    · refine h.bind fun a b hab => Alike.bind_self _ fun rest => .given ?_
      exact ⟨[], rest, a, b, hab, by rw [hname, List.nil_append], by rw [hname, List.nil_append]⟩
  | cons m before ih =>
    obtain ⟨k, u⟩ := m
    simp only [List.cons_append, Json.readFields]
    split
    · refine (ih seen).bind fun read read' hread => .given ?_
      split
      · exact hread.cons (k, u)
      · exact hread
    · next other reads _ =>
      split
      · exact .failed _ _
      · refine Alike.bind_self _ fun a => (ih (other.name :: seen)).bind fun read read' hread => ?_
        exact .given (hread.cons (other.name, a))

/-- A record is read alike when one member is exchanged. -/
theorem Alike.read_record (hslot : slotFor? fields key = some (slot, inner))
    (hname : slot.name = name) (h : Alike R (inner.read v) (inner.read w)) (layout : Layout)
    (before after : List (String × Json)) :
    Alike (fun a b => ∃ members members', DifferAt name R members members' ∧
        a = .obj members ∧ b = .obj members')
      ((Shape.record layout fields).read (.obj (before ++ (key, v) :: after)))
      ((Shape.record layout fields).read (.obj (before ++ (key, w) :: after))) := by
  simp only [Shape.read, readRecord]
  refine (Alike.readFields hslot hname h before after []).bind fun read read' hread => ?_
  rw [missing?_congr _ hread.map_fst_eq]
  split
  · exact .failed _ _
  · exact .given ⟨read, read', hread, rfl, rfl⟩

end TestReport.Json
