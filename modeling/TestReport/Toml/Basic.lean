/-!
# TOML values and tables

The value of a TOML document is a table. Settings consist of words and switches, so of numbers and
of times only the fact that they are there is kept; whether they are well formed is the business of
the reader.

A document adds to its tables line by line, and what a line may add depends on how the table came
about (`TableKind`). There is one way to add: `change` walks along a path of keys, makes the tables
that are not there yet, and hands the table at the end of the path to a function. The three kinds of
line, and the pairs of an inline table, are such changes: `putPair`, `openTable` and `openElement`.
They fail where a key would be given twice.
-/

namespace TestReport

/-- How a table came about. -/
inductive TableKind
  /-- It has a header, or is the document. -/
  | headed
  /-- Its name is part of the header of a table inside it. -/
  | implied
  /-- Its name is part of the dotted key of a value inside it. -/
  | dotted
  /-- It stands between braces. -/
  | inline
deriving DecidableEq, Repr

/-- Whether a path may lead through a table: through an inline table none does, and a dotted key
leads only through tables without a header. -/
def TableKind.isOpen (dotted : Bool) : TableKind → Bool
  | .headed => !dotted
  | .implied | .dotted => true
  | .inline => false

/-- The kind of the tables that a path makes. -/
def TableKind.made (dotted : Bool) : TableKind :=
  if dotted then .dotted else .implied

/-- A TOML value. -/
inductive Toml
  | text (s : String)
  | flag (b : Bool)
  | number
  /-- A date, a time of day, or both. -/
  | time
  | array (items : List Toml)
  | table (kind : TableKind) (members : List (String × Toml))
  /-- An array of tables with headers, of which the latest one is still open. -/
  | elements (earlier : List (List (String × Toml))) (latest : List (String × Toml))
deriving Inhabited

namespace Toml

/-- The members of a table. -/
abbrev Members := List (String × Toml)

/-- Members in which the one of a key is changed, or made from nothing. -/
def alter (key : String) (f : Option Toml → Option Toml) : Members → Option Members
  | [] => (f none).map fun v => [(key, v)]
  | (k, v) :: rest =>
    if k = key then (f (some v)).map fun v => (k, v) :: rest
    else (alter key f rest).map ((k, v) :: ·)

/-- Changes the table at the end of a path that starts in a table. -/
def change (isDotted : Bool) (f : TableKind → Members → Option Members) :
    List String → TableKind → Members → Option Members
  | [], kind, members => f kind members
  | key :: path, _, members =>
    members |> alter key fun
      | none =>
        let kind := TableKind.made isDotted
        (change isDotted f path kind []).map (table kind)
      | some (table kind inner) =>
        if kind.isOpen isDotted then (change isDotted f path kind inner).map (table kind) else none
      | some (elements earlier latest) =>
        (change isDotted f path .headed latest).map (elements earlier)
      | some _ => none

/-- Adds a value at a dotted key. A table that has the last key but one in a header takes no more
values this way. -/
def putPair (path : List String) (key : String) (value : Toml) :
    TableKind → Members → Option Members :=
  change true
    (fun kind members =>
      if (kind == .dotted) == !path.isEmpty then
        members |> alter key fun
          | none => some value
          | some _ => none
      else none)
    path

/-- Adds a table with a header. The table may be there already if it is only implied. -/
def openTable (path : List String) (key : String) : TableKind → Members → Option Members :=
  change false
    (fun _ members =>
      members |> alter key fun
        | none => some (table .headed [])
        | some (table .implied inner) => some (table .headed inner)
        | some _ => none)
    path

/-- Adds an element to an array of tables. -/
def openElement (path : List String) (key : String) : TableKind → Members → Option Members :=
  change false
    (fun _ members =>
      members |> alter key fun
        | none => some (elements [] [])
        | some (elements earlier latest) => some (elements (earlier ++ [latest]) [])
        | some _ => none)
    path

/-- What is found at a key after it was altered is what the change made of it. -/
theorem lookup_alter_self {key : String} {f : Option Toml → Option Toml} {members out : Members}
    (h : alter key f members = some out) : out.lookup key = f (members.lookup key) := by
  induction members generalizing out with
  | nil =>
    obtain ⟨v, hv, rfl⟩ := Option.map_eq_some_iff.1 h
    simp [hv]
  | cons m rest ih =>
    obtain ⟨k, v⟩ := m
    unfold alter at h
    split at h
    · next hk =>
      obtain ⟨w, hw, rfl⟩ := Option.map_eq_some_iff.1 h
      simp [hk, hw]
    · next hk =>
      obtain ⟨o, ho, rfl⟩ := Option.map_eq_some_iff.1 h
      simp [List.lookup_cons, beq_eq_false_iff_ne.2 (Ne.symm hk), ih ho]

end Toml

end TestReport
