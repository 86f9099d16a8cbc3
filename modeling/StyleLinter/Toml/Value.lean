import StyleLinter.Text.Basic

/-!
# Values of a build file in sections

A build file in sections holds texts, arrays, tables and values of other types. The linter reads
texts out of tables and out of arrays of tables, so values of the other types are told apart from
these and not from each other.

How a table came about decides what may still be added to it. A table that stands inline is
complete, and so is an array that does; a table with a header of its own cannot have a second one; a
table that only a longer name implies can still get a header. The array that headers with double
brackets make grows, and **its last table is the one that further headers add to**.
-/

namespace StyleLinter.Toml

/-- How a table came about. -/
inductive Origin where
  /-- The header of another table has its name on the way. -/
  | implied
  /-- It has a header. -/
  | header
  /-- The dotted key of a pair in this section has its name on the way. -/
  | dotted (index : Nat)
  /-- It stands inline as the value of a pair. -/
  | inline
deriving DecidableEq, Repr

/-- A value. -/
inductive Value where
  /-- A text. -/
  | text (t : Text)
  /-- A number, a truth value, a date or a time. -/
  | other
  /-- An array that stands inline. -/
  | array (items : List Value)
  /-- A table. -/
  | table (origin : Origin) (entries : List (Text × Value))
  /-- An array of tables that have headers. -/
  | tables (earlier : List (List (Text × Value))) (last : List (Text × Value))

/-- What a table holds. No name occurs twice. -/
abbrev Table := List (Text × Value)

namespace Table

/-- The table with a value under a name, in place of the one that was there. -/
def put (t : Table) (name : Text) (v : Value) : Table := (name, v) :: t.filter (·.1 ≠ name)

theorem lookup_filter_ne (t : Table) {name other : Text} (h : other ≠ name) :
    List.lookup other (t.filter (·.1 ≠ name)) = List.lookup other t := by
  induction t with
  | nil => rfl
  | cons e t ih =>
    obtain ⟨k, w⟩ := e
    by_cases hk : k = name
    · subst hk
      rw [List.filter_cons_of_neg (by simp), ih, List.lookup_cons, beq_eq_false_iff_ne.mpr h]
    · rw [List.filter_cons_of_pos (by simpa using hk), List.lookup_cons, List.lookup_cons, ih]

theorem lookup_put (t : Table) (name other : Text) (v : Value) :
    (t.put name v).lookup other = if other = name then some v else t.lookup other := by
  by_cases h : other = name
  · simp [put, h]
  · rw [put, List.lookup_cons, beq_eq_false_iff_ne.mpr h, if_neg h]
    exact lookup_filter_ne t h

/-- Changes the table that the names lead to, in the way in which headers find it: missing tables
are implied, and the name of an array of tables means the last of them. -/
def within (change : Table → Option Table) : List Text → Table → Option Table
  | [], t => change t
  | name :: names, t =>
    match t.lookup name with
    | none => (within change names []).map fun s ↦ t.put name (.table .implied s)
    | some (.table .inline _) => none
    | some (.table origin s) =>
      (within change names s).map fun s ↦ t.put name (.table origin s)
    | some (.tables earlier last) =>
      (within change names last).map fun s ↦ t.put name (.tables earlier s)
    | some _ => none

/-- Gives a table a header. -/
def declare (name : Text) (t : Table) : Option Table :=
  match t.lookup name with
  | none => some (t.put name (.table .header []))
  | some (.table .implied s) => some (t.put name (.table .header s))
  | some _ => none

/-- Adds a table to an array of tables. -/
def grow (name : Text) (t : Table) : Option Table :=
  match t.lookup name with
  | none => some (t.put name (.tables [] []))
  | some (.tables earlier last) => some (t.put name (.tables (earlier ++ [last]) []))
  | some _ => none

/-- Can a dotted key in the section lead through a table that came about like this? -/
def leadsThrough (index : Nat) : Origin → Bool
  | .implied => true
  | .dotted s => s == index
  | .header | .inline => false

/-- Adds a pair with a dotted key. -/
def assign (index : Nat) (v : Value) : List Text → Table → Option Table
  | [], _ => none
  | [name], t => if (t.lookup name).isSome then none else some (t.put name v)
  | name :: names, t =>
    match t.lookup name with
    | none =>
      (assign index v names []).map fun s ↦ t.put name (.table (.dotted index) s)
    | some (.table origin s) =>
      if leadsThrough index origin then
        (assign index v names s).map fun s ↦ t.put name (.table (.dotted index) s)
      else none
    | some _ => none

end Table

end StyleLinter.Toml
