/-!
# JSON values

A JSON value, with the two kinds of number that reports hold kept apart: an integer is exact, any
other number is a binary64 float. An object is the list of its members. As a text gives it, that
list may be in any order and name a key twice (`Json` is then the value *as written*); `canonical`
sorts the members of every object by key, where the last member of a key wins, and this is the form
in which objects are compared, copied into results and printed.

`insert` keeps a sorted list of members sorted (`insert_sorted`), and looking a key up after an
insertion finds what was inserted (`lookup_insert_self`) or what was there before
(`lookup_insert_of_ne`). Keys are ordered as strings are, by code point.
-/

namespace TestReport

/-- A number of a JSON text: an exact integer, or a float. -/
inductive Number
  | int (n : Int)
  | float (x : Float)
deriving DecidableEq, Inhabited

/-- The float nearest to an integer, for integers of 64 bits. -/
def Number.floatOfInt (n : Int) : Float :=
  let magnitude := (UInt64.ofNat n.natAbs).toFloat
  if n < 0 then -magnitude else magnitude

/-- A number as a float. -/
def Number.toFloat : Number → Float
  | int n => floatOfInt n
  | float x => x

/-- A JSON value. -/
inductive Json
  | null
  | bool (b : Bool)
  | num (n : Number)
  | str (s : String)
  | arr (items : List Json)
  | obj (members : List (String × Json))
deriving Inhabited

namespace Json

/-! ## Sorted members -/

section Members

variable {α : Type}

/-- Sets a key in a list of members sorted by key. -/
def insert (key : String) (value : α) : List (String × α) → List (String × α)
  | [] => [(key, value)]
  | (k, v) :: rest =>
    if key = k then (key, value) :: rest
    else if key < k then (key, value) :: (k, v) :: rest
    else (k, v) :: insert key value rest

/-- The members sorted by key, the last one of each key. -/
def sortMembers (members : List (String × α)) : List (String × α) :=
  members.foldl (fun sorted m => insert m.1 m.2 sorted) []

/-- Whether every key is greater than all keys before it. -/
def Sorted (members : List (String × α)) : Prop :=
  members.Pairwise fun a b => a.1 < b.1

theorem lookup_insert_self (key : String) (value : α) (members : List (String × α)) :
    (insert key value members).lookup key = some value := by
  induction members with
  | nil => simp [insert]
  | cons m rest ih =>
    obtain ⟨k, v⟩ := m
    unfold insert
    by_cases h : key = k
    · simp [h]
    · by_cases hlt : key < k
      · simp [h, hlt]
      · simp [h, hlt, List.lookup_cons, ih, beq_eq_false_iff_ne.2 h]

theorem lookup_insert_of_ne {key other : String} (hne : other ≠ key) (value : α)
    (members : List (String × α)) :
    (insert key value members).lookup other = members.lookup other := by
  induction members with
  | nil => simp [insert, List.lookup_cons, beq_eq_false_iff_ne.2 hne]
  | cons m rest ih =>
    obtain ⟨k, v⟩ := m
    unfold insert
    by_cases h : key = k
    · subst h; simp [List.lookup_cons, beq_eq_false_iff_ne.2 hne]
    · by_cases hlt : key < k
      · simp [h, hlt, List.lookup_cons, beq_eq_false_iff_ne.2 hne]
      · simp only [h, hlt, if_false, List.lookup_cons, ih]

theorem mem_keys_insert {key k : String} {value : α} {members : List (String × α)} :
    k ∈ (insert key value members).map (·.1) ↔ k = key ∨ k ∈ members.map (·.1) := by
  induction members with
  | nil => simp [insert]
  | cons m rest ih =>
    obtain ⟨l, v⟩ := m
    unfold insert
    by_cases h : key = l
    · subst h; simp
    · by_cases hlt : key < l
      · simp [h, hlt]
      · simp only [h, hlt, if_false, List.map_cons, List.mem_cons, ih]
        exact ⟨fun o => o.elim (.inr ∘ .inl) (·.imp_right .inr),
          fun o => o.elim (.inr ∘ .inl) (·.imp_right .inr)⟩

theorem insert_sorted {key : String} {value : α} {members : List (String × α)}
    (h : Sorted members) : Sorted (insert key value members) := by
  induction members with
  | nil => simp [insert, Sorted]
  | cons m rest ih =>
    obtain ⟨k, v⟩ := m
    obtain ⟨hk, hrest⟩ := List.pairwise_cons.1 h
    unfold insert
    by_cases heq : key = k
    · subst heq
      simpa [Sorted] using List.pairwise_cons.2 ⟨hk, hrest⟩
    · by_cases hlt : key < k
      · simp only [heq, hlt, if_false, if_true]
        refine List.pairwise_cons.2 ⟨fun b hb => ?_, h⟩
        rcases List.mem_cons.1 hb with rfl | hb
        · exact hlt
        · exact String.lt_trans hlt (hk b hb)
      · simp only [heq, hlt, if_false]
        refine List.pairwise_cons.2 ⟨fun b hb => ?_, ih hrest⟩
        have hkey : b.1 = key ∨ b.1 ∈ rest.map (·.1) :=
          mem_keys_insert.1 (List.mem_map_of_mem hb)
        rcases hkey with e | e
        · have hle : k ≤ key := String.not_lt.1 hlt
          have hne : ¬ key ≤ k := fun hge => heq (String.le_antisymm hge hle)
          simpa [e] using String.not_le.1 hne
        · obtain ⟨c, hc, e⟩ := List.mem_map.1 e
          simpa [← e] using hk c hc

theorem sortMembers_sorted (members : List (String × α)) : Sorted (sortMembers members) := by
  suffices ∀ sorted : List (String × α), Sorted sorted →
      Sorted (members.foldl (fun sorted m => insert m.1 m.2 sorted) sorted) from
    this [] List.Pairwise.nil
  induction members with
  | nil => exact fun _ h => h
  | cons m rest ih => exact fun sorted h => ih _ (insert_sorted h)

end Members

/-! ## Canonical form -/

mutual

/-- The value with the members of every object sorted by key, the last one of each key. -/
def canonical : Json → Json
  | arr items => arr (canonicalItems items)
  | obj members => obj (sortMembers (canonicalMembers members))
  | null => null
  | bool b => bool b
  | num n => num n
  | str s => str s

/-- Canonical forms of the items of an array. -/
def canonicalItems : List Json → List Json
  | [] => []
  | v :: vs => canonical v :: canonicalItems vs

/-- Canonical forms of the members of an object, in the same order. -/
def canonicalMembers : List (String × Json) → List (String × Json)
  | [] => []
  | (k, v) :: ms => (k, canonical v) :: canonicalMembers ms

end

/-! ## Looking inside a value -/

/-- The members of an object. -/
def members? : Json → Option (List (String × Json))
  | obj members => some members
  | _ => none

/-- The items of an array. -/
def items? : Json → Option (List Json)
  | arr items => some items
  | _ => none

/-- The value of a key of an object. -/
def get? (v : Json) (key : String) : Option Json :=
  v.members?.bind (·.lookup key)

/-- The characters of a string value. -/
def str? : Json → Option String
  | str s => some s
  | _ => none

/-- A number without fraction and exponent that is not negative. -/
def nat? : Json → Option Nat
  | num (.int n) => n.toNat?
  | _ => none

/-- Whether a value is a positive integer. -/
def isPositive (v : Json) : Bool :=
  v.nat?.any (0 < ·)

/-- The integer `n` as a value. -/
def ofNat (n : Nat) : Json :=
  num (.int n)

/-- A value that may be absent, with `null` in its place. -/
def ofOption {α : Type} (f : α → Json) : Option α → Json
  | some a => f a
  | none => null

/-! ## Equality -/

mutual

/-- Equality of values is decidable. -/
def decEq : (a b : Json) → Decidable (a = b)
  | null, null => isTrue rfl
  | bool a, bool b => decidable_of_iff (a = b) (by simp)
  | num a, num b => decidable_of_iff (a = b) (by simp)
  | str a, str b => decidable_of_iff (a = b) (by simp)
  | arr a, arr b =>
    match decEqItems a b with
    | isTrue h => isTrue (by rw [h])
    | isFalse h => isFalse (by simpa using h)
  | obj a, obj b =>
    match decEqMembers a b with
    | isTrue h => isTrue (by rw [h])
    | isFalse h => isFalse (by simpa using h)
  | null, bool _ | null, num _ | null, str _ | null, arr _ | null, obj _ => isFalse nofun
  | bool _, null | bool _, num _ | bool _, str _ | bool _, arr _ | bool _, obj _ => isFalse nofun
  | num _, null | num _, bool _ | num _, str _ | num _, arr _ | num _, obj _ => isFalse nofun
  | str _, null | str _, bool _ | str _, num _ | str _, arr _ | str _, obj _ => isFalse nofun
  | arr _, null | arr _, bool _ | arr _, num _ | arr _, str _ | arr _, obj _ => isFalse nofun
  | obj _, null | obj _, bool _ | obj _, num _ | obj _, str _ | obj _, arr _ => isFalse nofun

/-- Equality of lists of values is decidable. -/
def decEqItems : (a b : List Json) → Decidable (a = b)
  | [], [] => isTrue rfl
  | [], _ :: _ | _ :: _, [] => isFalse nofun
  | a :: as, b :: bs =>
    match decEq a b, decEqItems as bs with
    | isTrue h, isTrue hs => isTrue (by rw [h, hs])
    | isFalse h, _ => isFalse fun e => h (List.cons.inj e).1
    | _, isFalse h => isFalse fun e => h (List.cons.inj e).2

/-- Equality of lists of members is decidable. -/
def decEqMembers : (a b : List (String × Json)) → Decidable (a = b)
  | [], [] => isTrue rfl
  | [], _ :: _ | _ :: _, [] => isFalse nofun
  | (k, a) :: as, (l, b) :: bs =>
    if hk : k = l then
      match decEq a b, decEqMembers as bs with
      | isTrue h, isTrue hs => isTrue (by rw [hk, h, hs])
      | isFalse h, _ => isFalse fun e => h (Prod.mk.inj (List.cons.inj e).1).2
      | _, isFalse h => isFalse fun e => h (List.cons.inj e).2
    else isFalse fun e => hk (Prod.mk.inj (List.cons.inj e).1).1

end

instance : DecidableEq Json := decEq

end Json

end TestReport
