import PhpLexicon.Proofs.Arrangement

/-!
# Candidates of a text

The spellings with which a text begins are beginnings of each other, so an order in which extensions
come first has only one way to list them: from the longest to the shortest.  Two orders that list
the rest of a vocabulary quite differently therefore find the same hits.
-/

namespace PhpLexicon

/-- Of two beginnings of a text, one that is no beginning of the other is longer than it. -/
theorem length_lt_of_not_beginning {left right text : List Char} (hleft : left <+: text)
    (hright : right <+: text) (hnot : ¬ left <+: right) : right.length < left.length := by
  by_cases hle : left.length ≤ right.length
  · exact absurd (List.prefix_of_prefix_length_le hleft hright hle) hnot
  · exact Nat.lt_of_not_le hle

namespace MatchOrder

variable {before other : Entry → Entry → Bool} {vocabulary : Vocabulary} {text : List Char}

/-- The entries with which a text begins, in the order in which they are tried. -/
def candidates (order : MatchOrder) (text : List Char) : List Entry :=
  order.entries.filter (fun entry => entry.begins text)

@[simp]
theorem mem_candidates {order : MatchOrder} {entry : Entry} :
    entry ∈ order.candidates text ↔
      entry ∈ order.entries ∧ entry.spelling.toList <+: text := by
  simp [candidates]

/-- The hit is the first candidate. -/
theorem head?_candidates (order : MatchOrder) (text : List Char) :
    (order.candidates text).head? = order.hit? text :=
  List.head?_filter

/-- In a vocabulary sorted by an arrangement every candidate is longer than those behind it. -/
theorem pairwise_candidates_sortedBy (harranges : Entry.Arranges before) :
    ((sortedBy before vocabulary).candidates text).Pairwise fun left right =>
      right.spelling.length < left.spelling.length := by
  have hextensions : ((sortedBy before vocabulary).candidates text).Pairwise fun left right =>
      ¬ left.spelling.toList <+: right.spelling.toList :=
    (pairwise_not_extended_sortedBy harranges).filter _
  apply hextensions.imp_of_mem
  intro left right hleft hright hnot
  have hlt := length_lt_of_not_beginning (mem_candidates.mp hleft).2
    (mem_candidates.mp hright).2 hnot
  rwa [String.length_toList, String.length_toList] at hlt

/-- All arrangements list the candidates of a text in the same way. -/
theorem candidates_sortedBy_eq (hbefore : Entry.Arranges before) (hother : Entry.Arranges other) :
    (sortedBy before vocabulary).candidates text = (sortedBy other vocabulary).candidates text := by
  have hperm : ((sortedBy before vocabulary).candidates text).Perm
      ((sortedBy other vocabulary).candidates text) :=
    (perm_sortedBy.trans perm_sortedBy.symm).filter _
  apply List.Perm.eq_of_pairwise _ (pairwise_candidates_sortedBy hbefore)
    (pairwise_candidates_sortedBy hother) hperm
  intro left right _ _ hlt hgt
  omega

/-- Matching cannot tell the order by length from the order of strings: on every vocabulary and
every text both list the same candidates, from the longest to the shortest, and find the same
match. -/
theorem candidates_longestFirst_eq_descending (vocabulary : Vocabulary) (text : String) :
    (longestFirst vocabulary).candidates text.toList =
        (descending vocabulary).candidates text.toList ∧
      ((longestFirst vocabulary).candidates text.toList).Pairwise
        (fun left right => right.spelling.length < left.spelling.length) ∧
      (longestFirst vocabulary).longestMatch? text =
        (descending vocabulary).longestMatch? text := by
  have heq : (longestFirst vocabulary).candidates text.toList =
      (descending vocabulary).candidates text.toList :=
    candidates_sortedBy_eq Entry.arranges_longestFirst Entry.arranges_greatestFirst
  refine ⟨heq, pairwise_candidates_sortedBy Entry.arranges_longestFirst, ?_⟩
  calc
    (longestFirst vocabulary).longestMatch? text =
        ((longestFirst vocabulary).candidates text.toList).head? :=
      (head?_candidates _ _).symm
    _ = ((descending vocabulary).candidates text.toList).head? := by rw [heq]
    _ = (descending vocabulary).longestMatch? text := head?_candidates _ _

end MatchOrder

end PhpLexicon
