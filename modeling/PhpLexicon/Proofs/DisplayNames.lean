import Mathlib.Data.Finset.Card
import Mathlib.Data.Fintype.Defs
import Mathlib.Data.List.Induction
import PhpLexicon.Kind.NameTable

/-!
# Names of a list

A name table is filled from a list in which a kind may be named any number of times.  The name that
stands last decides: it becomes the name of the kind, or leaves the kind without one if it is empty.
Names of other kinds do not matter, and neither does what stood there before.
-/

namespace PhpLexicon

instance : Fintype Kind where
  elems := ⟨Kind.all, Kind.nodup_all⟩
  complete := Kind.mem_all

namespace NameTable

variable {names : List (Kind × String)} {kind : Kind}

/-- The name that stands last for a kind, if any does. -/
def lastName? (names : List (Kind × String)) (kind : Kind) : Option String :=
  ((names.filter fun entry => decide (entry.1 = kind)).getLast?).map Prod.snd

theorem lastName?_append_singleton (entry : Kind × String) :
    lastName? (names ++ [entry]) kind =
      if entry.1 = kind then some entry.2 else lastName? names kind := by
  rw [lastName?, List.filter_append]
  by_cases hkind : entry.1 = kind
  · rw [if_pos hkind, List.filter_singleton, decide_eq_true hkind]
    simp
  · rw [if_neg hkind, List.filter_singleton, decide_eq_false hkind]
    simp [lastName?]

/-- The list gives the name to the kind, and nothing behind that is about the kind. -/
def StandsLast (names : List (Kind × String)) (kind : Kind) (name : String) : Prop :=
  ∃ earlier later, names = earlier ++ (kind, name) :: later ∧ ∀ entry ∈ later, entry.1 ≠ kind

theorem lastName?_append_of_ne {later : List (Kind × String)}
    (hlater : ∀ entry ∈ later, entry.1 ≠ kind) :
    lastName? (names ++ later) kind = lastName? names kind := by
  have hnone : later.filter (fun entry => decide (entry.1 = kind)) = [] := by
    simpa using hlater
  rw [lastName?, lastName?, List.filter_append, hnone, List.append_nil]

theorem lastName?_eq_some_iff {name : String} :
    lastName? names kind = some name ↔ StandsLast names kind name := by
  constructor
  · intro hlast
    obtain ⟨entry, hentry, rfl⟩ := Option.map_eq_some_iff.mp hlast
    obtain ⟨front, hfilter⟩ := List.getLast?_eq_some_iff.mp hentry
    obtain ⟨earlier, rest, rfl, -, hrest⟩ := List.filter_eq_append_iff.mp hfilter
    obtain ⟨skipped, later, rfl, -, hkind, hlater⟩ := List.filter_eq_cons_iff.mp hrest
    have hkind : entry.1 = kind := of_decide_eq_true hkind
    subst hkind
    exact ⟨earlier ++ skipped, later, (List.append_assoc _ _ _).symm, by simpa using hlater⟩
  · rintro ⟨earlier, later, rfl, hlater⟩
    calc
      lastName? (earlier ++ (kind, name) :: later) kind =
          lastName? (earlier ++ [(kind, name)] ++ later) kind := by rw [List.append_cons]
      _ = lastName? (earlier ++ [(kind, name)]) kind := lastName?_append_of_ne hlater
      _ = some name := by rw [lastName?_append_singleton, if_pos rfl]

theorem lastName?_eq_none_iff :
    lastName? names kind = none ↔ ∀ entry ∈ names, entry.1 ≠ kind := by
  simp [lastName?]

/-- The table shows the last name of a kind, unless that name is empty. -/
theorem get?_ofList (names : List (Kind × String)) (kind : Kind) :
    (ofList names).get? kind = (lastName? names kind).filter fun name => decide (name ≠ "") := by
  -- The table is filled from the left, so the last entry is the last to be written.
  induction names using List.reverseRecOn with
  | nil => exact get?_empty kind
  | append_singleton names entry ih =>
      have hfill : ofList (names ++ [entry]) = (ofList names).set entry.1 entry.2 := by
        rw [ofList, List.foldl_append]
        rfl
      rw [hfill, get?_set, lastName?_append_singleton]
      by_cases hkind : entry.1 = kind
      · rw [if_pos hkind, if_pos hkind, Option.filter_some]
        by_cases hempty : entry.2 = ""
        · simp [hempty]
        · simp [hempty]
      · rw [if_neg hkind, if_neg hkind, ih]

/-- The list leaves a kind without a name: it has none, or the last one is empty. -/
def Unnamed (names : List (Kind × String)) (kind : Kind) : Prop :=
  lastName? names kind = none ∨ lastName? names kind = some ""

instance : DecidablePred (Unnamed names) := fun kind =>
  inferInstanceAs (Decidable (lastName? names kind = none ∨ lastName? names kind = some ""))

theorem get?_ofList_eq_none_iff : (ofList names).get? kind = none ↔ Unnamed names kind := by
  rw [get?_ofList, Unnamed]
  cases lastName? names kind with
  | none => simp
  | some name => simp

/-- The kinds that a list leaves without a name. -/
def unnamedKinds (names : List (Kind × String)) : Finset Kind :=
  Finset.univ.filter (Unnamed names)

theorem missing_ofList : (ofList names).missing = Kind.all.filter (Unnamed names) := by
  apply List.filter_congr
  intro kind _
  rw [← Bool.coe_iff_coe, Option.isNone_iff_eq_none, get?_ofList_eq_none_iff, decide_eq_true_iff]

theorem length_missing_ofList : (ofList names).missing.length = (unnamedKinds names).card := by
  rw [missing_ofList]
  rfl

end NameTable

end PhpLexicon
