import PhpLexicon.Kind.Basic

/-!
# Display names

A name table has one slot per kind.  A kind whose slot is empty is displayed as its ordinal in
decimal, so a kind that was forgotten in a table degrades a diagnostic and never fails it.
-/

namespace PhpLexicon

/-- The display names of the kinds, one optional name per kind. -/
structure NameTable where
  /-- The name of each kind, at the kind's ordinal. -/
  slots : Vector (Option String) Kind.count

namespace NameTable

/-- The table in which no kind has a name. -/
def empty : NameTable where
  slots := Vector.replicate Kind.count none

/-- Gives a kind a name.  The empty name takes away the name that the kind had. -/
def set (table : NameTable) (kind : Kind) (name : String) : NameTable where
  slots := table.slots.set kind.ordinal (if name = "" then none else some name)
    kind.ordinal_lt_count

/-- The table of a list of names, read from left to right: the last name of a kind counts. -/
def ofList (names : List (Kind × String)) : NameTable :=
  names.foldl (fun table entry => table.set entry.1 entry.2) empty

/-- The name of a kind, if it has one. -/
def get? (table : NameTable) (kind : Kind) : Option String :=
  table.slots[kind.index]

/-- The text by which a kind is displayed: its name, or else its ordinal in decimal. -/
def display (table : NameTable) (kind : Kind) : String :=
  (table.get? kind).getD (toString kind.ordinal)

/-- The kinds without a name, in the order of declaration. -/
def missing (table : NameTable) : List Kind :=
  Kind.all.filter (fun kind => (table.get? kind).isNone)

@[simp]
theorem get?_empty (kind : Kind) : empty.get? kind = none := by
  simp [get?, empty]

theorem get?_set (table : NameTable) (kind other : Kind) (name : String) :
    (table.set kind name).get? other =
      if kind = other then (if name = "" then none else some name) else table.get? other := by
  have hordinal : kind.ordinal = other.ordinal ↔ kind = other := by
    constructor
    · intro heq
      have hsome := congrArg Kind.ofOrdinal? heq
      simpa using hsome
    · exact congrArg Kind.ordinal
  simp [get?, set, Kind.index, Vector.getElem_set, hordinal]

theorem mem_missing {table : NameTable} {kind : Kind} :
    kind ∈ table.missing ↔ table.get? kind = none := by
  rw [missing, List.mem_filter, Option.isNone_iff_eq_none]
  exact and_iff_right kind.mem_all

end NameTable

end PhpLexicon
