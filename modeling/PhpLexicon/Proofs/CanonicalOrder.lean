import PhpLexicon.Proofs.Reordering
import PhpLexicon.Proofs.Views

/-!
# Canonical match orders

A list of entries has one arrangement by length and one by strings, and sorting finds them from
whatever order the entries are in.  In both, every entry strictly precedes all those behind it, a
spelling has one place, and an extension has a place in front of its beginnings.
-/

namespace PhpLexicon

namespace Entry

/-- The spelling is a greater string than another. -/
def Greater (left right : Entry) : Prop :=
  right.spelling < left.spelling

/-- The spelling has more characters than another, or as many and is the greater string. -/
def LongerOrGreater (left right : Entry) : Prop :=
  right.spelling.length < left.spelling.length ∨
    left.spelling.length = right.spelling.length ∧ left.Greater right

theorem greater_iff {left right : Entry} :
    left.Greater right ↔
      left.greatestFirst right = true ∧ left.spelling ≠ right.spelling := by
  rw [Greater, greatestFirst_iff, Std.lt_iff_le_and_ne, ne_comm]

theorem longerOrGreater_iff {left right : Entry} :
    left.LongerOrGreater right ↔
      left.longestFirst right = true ∧ left.spelling ≠ right.spelling := by
  rw [LongerOrGreater, greater_iff, longestFirst_iff, greatestFirst_iff]
  by_cases hlength : left.spelling.length = right.spelling.length
  · simp only [hlength, Nat.lt_irrefl, Nat.le_refl, false_or, true_and, true_implies]
  · have hne : left.spelling ≠ right.spelling := fun heq => hlength (congrArg String.length heq)
    simp only [hlength, hne, ne_eq, not_false_eq_true, false_and, false_implies, and_true, or_false]
    omega

end Entry

namespace MatchOrder

/-- The match order holds the entries of a list in the one way in which each strictly precedes those
behind it.  The place of a spelling is where it stands, and the place of an extension comes before
the places of its beginnings. -/
structure Canonical (order : MatchOrder) (Precedes : Entry → Entry → Prop)
    (entries : List Entry) : Prop where
  perm : order.entries.Perm entries
  pairwise : order.entries.Pairwise Precedes
  eq_of_pairwise : ∀ sorted : List Entry, sorted.Perm entries → sorted.Pairwise Precedes →
    sorted = order.entries
  position?_eq_some_iff : ∀ (spelling : String) (place : Nat),
    order.position? spelling = some place ↔
      order.entries[place]?.map Entry.spelling = some spelling
  position?_eq_none_iff : ∀ spelling : String,
    order.position? spelling = none ↔ spelling ∉ entries.map Entry.spelling
  extension_before : ∀ shorter ∈ entries, ∀ longer ∈ entries,
    shorter.spelling.toList <+: longer.spelling.toList → shorter.spelling ≠ longer.spelling →
      ∃ first last, order.position? longer.spelling = some first ∧
        order.position? shorter.spelling = some last ∧ first < last

variable {before : Entry → Entry → Bool} {vocabulary : Vocabulary}

theorem position?_eq_none_iff_not_mem {order : MatchOrder} {spelling : String} :
    order.position? spelling = none ↔ spelling ∉ order.entries.map Entry.spelling := by
  simp [position?]

/-- In a sorted vocabulary the place of an extension comes before the place of a beginning. -/
theorem place_lt_of_beginning (harranges : Entry.Arranges before) {shorter longer : Entry}
    {first last : Nat} (hlonger : (sortedBy before vocabulary).entries[first]? = some longer)
    (hshorter : (sortedBy before vocabulary).entries[last]? = some shorter)
    (hbeginning : shorter.spelling.toList <+: longer.spelling.toList)
    (hne : shorter.spelling ≠ longer.spelling) : first < last := by
  rcases Nat.lt_trichotomy first last with hlt | heq | hgt
  · exact hlt
  · rw [heq, hshorter, Option.some.injEq] at hlonger
    exact absurd (congrArg Entry.spelling hlonger) hne
  · -- The beginning would stand before an extension of itself.
    obtain ⟨hfirst, rfl⟩ := List.getElem?_eq_some_iff.mp hlonger
    obtain ⟨hlast, rfl⟩ := List.getElem?_eq_some_iff.mp hshorter
    have hnot := List.pairwise_iff_getElem.mp (pairwise_not_extended_sortedBy harranges)
      last first hlast hfirst hgt
    exact absurd hbeginning hnot

/-- Sorting by an arrangement is canonical for the strict form of the arrangement. -/
theorem canonical_sortedBy {Precedes : Entry → Entry → Prop} (harranges : Entry.Arranges before)
    (hprecedes : ∀ left right : Entry,
      Precedes left right ↔ before left right = true ∧ left.spelling ≠ right.spelling) :
    (sortedBy before vocabulary).Canonical Precedes vocabulary.entries where
  perm := perm_sortedBy
  pairwise := (pairwise_sortedBy harranges).imp fun hstrict => (hprecedes _ _).mpr hstrict
  eq_of_pairwise sorted hperm hsorted :=
    eq_entries_sortedBy harranges hperm (hsorted.imp fun hstrict => ((hprecedes _ _).mp hstrict).1)
  position?_eq_some_iff spelling place := by
    rw [position?_sortedBy_eq_some_iff, Option.map_eq_some_iff]
    constructor
    · rintro ⟨kind, hentry⟩
      exact ⟨⟨spelling, kind⟩, hentry, rfl⟩
    · rintro ⟨entry, hentry, rfl⟩
      exact ⟨entry.kind, hentry⟩
  position?_eq_none_iff spelling := by
    rw [position?_eq_none_iff_not_mem, (perm_sortedBy.map Entry.spelling).mem_iff]
  extension_before shorter hshorter longer hlonger hbeginning hne := by
    obtain ⟨first, hfirst, hlongerAt⟩ := exists_position?_sortedBy_iff.mpr hlonger
    obtain ⟨last, hlast, hshorterAt⟩ := exists_position?_sortedBy_iff.mpr hshorter
    exact ⟨first, last, hfirst, hlast,
      place_lt_of_beginning harranges hlongerAt hshorterAt hbeginning hne⟩

/-- Every accepted list has a canonical order by length and a canonical order of strings, whatever
order its entries are in, and the two match orders are these. -/
theorem canonical_match_orders {entries : List Entry} {vocabulary : Vocabulary}
    (hbuild : Vocabulary.ofEntries entries = .ok vocabulary) :
    (longestFirst vocabulary).Canonical Entry.LongerOrGreater entries ∧
      (descending vocabulary).Canonical Entry.Greater entries := by
  rw [← Vocabulary.entries_ofEntries hbuild]
  have hlongest : (longestFirst vocabulary).Canonical Entry.LongerOrGreater vocabulary.entries :=
    canonical_sortedBy Entry.arranges_longestFirst fun _ _ => Entry.longerOrGreater_iff
  have hgreatest : (descending vocabulary).Canonical Entry.Greater vocabulary.entries :=
    canonical_sortedBy Entry.arranges_greatestFirst fun _ _ => Entry.greater_iff
  exact ⟨hlongest, hgreatest⟩

/-- In both orders the strong inequality operator comes before the negation operator, with which it
begins. -/
theorem canonical_match_orders_builtin :
    Vocabulary.ofEntries Vocabulary.builtinEntries = .ok Vocabulary.builtin ∧
      (∃ first last, (longestFirst Vocabulary.builtin).position? "!==" = some first ∧
        (longestFirst Vocabulary.builtin).position? "!" = some last ∧ first < last) ∧
      ∃ first last, (descending Vocabulary.builtin).position? "!==" = some first ∧
        (descending Vocabulary.builtin).position? "!" = some last ∧ first < last := by
  have hbuild : Vocabulary.ofEntries Vocabulary.builtinEntries = .ok Vocabulary.builtin :=
    Vocabulary.ofEntries_entries Vocabulary.builtin
  obtain ⟨hlongest, hgreatest⟩ := canonical_match_orders hbuild
  have hshorter : ⟨"!", .negationOperator⟩ ∈ Vocabulary.builtinEntries := by decide +kernel
  have hlonger : ⟨"!==", .strongNotEqualityOperator⟩ ∈ Vocabulary.builtinEntries := by
    decide +kernel
  exact ⟨hbuild,
    hlongest.extension_before _ hshorter _ hlonger (by decide) (by decide),
    hgreatest.extension_before _ hshorter _ hlonger (by decide) (by decide)⟩

end MatchOrder

end PhpLexicon
