import Mathlib
import PhpLexicon.Proofs.DisplayNames

/-!
# What is shown for a kind

A kind is shown by the name that stands last for it.  A kind without a name is shown by its ordinal,
from which the kind can be read back, so two kinds without a name are never shown alike.
-/

namespace PhpLexicon.NameTable

variable {table : NameTable} {names : List (Kind × String)} {kind : Kind}

/-! ## The names of a list -/

/-- A kind is named by the last name of the list for it, if that is not empty. -/
theorem get?_ofList_eq_some_iff {name : String} :
    (ofList names).get? kind = some name ↔ name ≠ "" ∧ StandsLast names kind name := by
  rw [get?_ofList, Option.filter_eq_some_iff, lastName?_eq_some_iff, decide_eq_true_iff]
  exact and_comm

/-- A kind is left without a name if the list does not name it, or ends with the empty name. -/
theorem get?_ofList_eq_none_iff_standsLast :
    (ofList names).get? kind = none ↔
      (∀ entry ∈ names, entry.1 ≠ kind) ∨ StandsLast names kind "" := by
  rw [get?_ofList_eq_none_iff, Unnamed, lastName?_eq_none_iff, lastName?_eq_some_iff]

/-- What the list says about other kinds does not matter. -/
theorem get?_ofList_filter :
    (ofList (names.filter fun entry => decide (entry.1 = kind))).get? kind =
      (ofList names).get? kind := by
  have hlast : lastName? (names.filter fun entry => decide (entry.1 = kind)) kind =
      lastName? names kind := by
    rw [lastName?, lastName?, List.filter_filter]
    simp only [Bool.and_self]
  rw [get?_ofList, get?_ofList, hlast]

/-! ## The kinds without a name -/

theorem pairwise_ordinal_missing :
    table.missing.Pairwise fun left right => left.ordinal < right.ordinal := by
  have hall : Kind.all.Pairwise fun left right => left.ordinal < right.ordinal := by
    apply List.pairwise_map.mp
    rw [Kind.map_ordinal_all]
    exact List.pairwise_lt_range
  exact hall.filter _

theorem nodup_missing : table.missing.Nodup :=
  Kind.nodup_all.filter _

theorem display_of_get? {name : String} (hname : table.get? kind = some name) :
    table.display kind = name := by
  rw [display, hname, Option.getD_some]

theorem display_of_mem_missing (hmissing : kind ∈ table.missing) :
    table.display kind = toString kind.ordinal := by
  rw [display, mem_missing.mp hmissing, Option.getD_none]

/-- From what is shown for a kind without a name the kind can be read back. -/
theorem ofOrdinal?_display (hmissing : kind ∈ table.missing) :
    (table.display kind).toNat?.bind Kind.ofOrdinal? = some kind := by
  calc
    (table.display kind).toNat?.bind Kind.ofOrdinal? =
        (toString kind.ordinal).toNat?.bind Kind.ofOrdinal? := by
      rw [display_of_mem_missing hmissing]
    _ = Kind.ofOrdinal? kind.ordinal := by
      rw [Nat.toString_eq_repr, Nat.toNat?_repr, Option.bind_some]
    _ = some kind := Kind.ofOrdinal?_ordinal kind

theorem eq_of_display_eq {other : Kind} (hkind : kind ∈ table.missing)
    (hother : other ∈ table.missing) (heq : table.display kind = table.display other) :
    kind = other := by
  have hsome : some kind = some other := by
    rw [← ofOrdinal?_display hkind, heq, ofOrdinal?_display hother]
  exact Option.some.inj hsome

/-- In the table of a list the last name of a kind wins.  An empty name takes away what stood before
it, and names of other kinds do not matter.  The kinds without a name are listed once each, in the
order of their ordinals, and are shown by their ordinals in decimal; the kind can be read back from
what is shown, so no two of them are shown alike.  Every other kind is shown by its name. -/
theorem last_name_wins (names : List (Kind × String)) :
    (∀ kind name, (ofList names).get? kind = some name ↔
        name ≠ "" ∧ StandsLast names kind name) ∧
      (∀ kind, (ofList names).get? kind = none ↔
        (∀ entry ∈ names, entry.1 ≠ kind) ∨ StandsLast names kind "") ∧
      (∀ kind, (ofList (names.filter fun entry => decide (entry.1 = kind))).get? kind =
        (ofList names).get? kind) ∧
      (∀ kind, kind ∈ (ofList names).missing ↔ (ofList names).get? kind = none) ∧
      (ofList names).missing.Nodup ∧
      (ofList names).missing.Pairwise (fun left right => left.ordinal < right.ordinal) ∧
      (∀ kind name, (ofList names).get? kind = some name → (ofList names).display kind = name) ∧
      (∀ kind ∈ (ofList names).missing, (ofList names).display kind = toString kind.ordinal ∧
        ((ofList names).display kind).toNat?.bind Kind.ofOrdinal? = some kind) ∧
      ∀ left ∈ (ofList names).missing, ∀ right ∈ (ofList names).missing, left ≠ right →
        (ofList names).display left ≠ (ofList names).display right := by
  exact ⟨fun _ _ => get?_ofList_eq_some_iff, fun _ => get?_ofList_eq_none_iff_standsLast,
    fun _ => get?_ofList_filter, fun _ => mem_missing, nodup_missing, pairwise_ordinal_missing,
    fun _ _ => display_of_get?,
    fun _ hmissing => ⟨display_of_mem_missing hmissing, ofOrdinal?_display hmissing⟩,
    fun _ hleft _ hright hne heq => hne (eq_of_display_eq hleft hright heq)⟩

/-- One kind is named by the last entry about it; another loses its name again and is shown by its
ordinal, from which it is read back. -/
theorem last_name_wins_blanked :
    (ofList [(.space, "blank"), (.comma, ","), (.space, "")]).get? .comma = some "," ∧
      (ofList [(.space, "blank"), (.comma, ","), (.space, "")]).display .space = "6" ∧
      ((ofList [(.space, "blank"), (.comma, ","), (.space, "")]).display .space).toNat?.bind
        Kind.ofOrdinal? = some .space := by
  obtain ⟨hsome, hnone, -, hmissing, -, -, -, hdisplay, -⟩ :=
    last_name_wins [(.space, "blank"), (.comma, ","), (.space, "")]
  have hcomma : StandsLast [(.space, "blank"), (.comma, ","), (.space, "")] .comma "," :=
    ⟨[(.space, "blank")], [(.space, "")], rfl, by decide⟩
  have hspace : StandsLast [(.space, "blank"), (.comma, ","), (.space, "")] .space "" :=
    ⟨[(.space, "blank"), (.comma, ",")], [], rfl, by simp⟩
  have hunnamed := (hmissing .space).mpr ((hnone .space).mpr (Or.inr hspace))
  exact ⟨(hsome .comma ",").mpr ⟨by decide, hcomma⟩, hdisplay .space hunnamed⟩

end PhpLexicon.NameTable
