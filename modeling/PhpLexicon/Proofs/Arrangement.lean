import PhpLexicon.Vocabulary.MatchOrder

/-!
# Arrangements

A comparison of entries arranges them for matching when it orders them totally by their spellings
and puts every spelling before its own beginnings.  Both comparisons do, for reasons of their own:
an extension is longer, and it is a greater string.  What matching relies on holds of a vocabulary
that is sorted by any arrangement.
-/

namespace PhpLexicon

namespace Entry

theorem longestFirst_iff {left right : Entry} :
    left.longestFirst right = true ↔
      right.spelling.length ≤ left.spelling.length ∧
        (left.spelling.length = right.spelling.length → right.spelling ≤ left.spelling) := by
  by_cases hlength : left.spelling.length = right.spelling.length
  · simp [longestFirst, hlength]
  · simp only [longestFirst, hlength, decide_false, Bool.false_and, Bool.or_false,
      decide_eq_true_iff, false_implies, and_true]
    omega

theorem greatestFirst_iff {left right : Entry} :
    left.greatestFirst right = true ↔ right.spelling ≤ left.spelling := by
  simp [greatestFirst]

/-- A total order of entries by their spellings in which an extension precedes its beginnings. -/
structure Arranges (before : Entry → Entry → Bool) : Prop where
  trans : ∀ left middle right : Entry,
    before left middle = true → before middle right = true → before left right = true
  total : ∀ left right : Entry, before left right = true ∨ before right left = true
  antisymm : ∀ left right : Entry,
    before left right = true → before right left = true → left.spelling = right.spelling
  extension_before : ∀ left right : Entry,
    left.spelling.toList <+: right.spelling.toList → before right left = true

theorem arranges_longestFirst : Arranges longestFirst where
  trans left middle right hleft hright := by
    rw [longestFirst_iff] at hleft hright ⊢
    constructor
    · exact Nat.le_trans hright.1 hleft.1
    · intro hlength
      have hle := hleft.2 (by omega)
      have hge := hright.2 (by omega)
      exact String.le_trans hge hle
  total left right := by
    rw [longestFirst_iff, longestFirst_iff]
    by_cases hlength : left.spelling.length = right.spelling.length
    · have hspelling := String.le_total right.spelling left.spelling
      simpa [hlength] using hspelling
    · have hle := Nat.le_total right.spelling.length left.spelling.length
      simpa [hlength, Ne.symm hlength] using hle
  antisymm left right hleft hright := by
    rw [longestFirst_iff] at hleft hright
    have hlength := Nat.le_antisymm hright.1 hleft.1
    exact String.le_antisymm (hright.2 hlength.symm) (hleft.2 hlength)
  extension_before left right hextension := by
    rw [longestFirst_iff]
    have hlength := hextension.length_le
    rw [String.length_toList, String.length_toList] at hlength
    exact ⟨hlength, fun _ => hextension.le⟩

theorem arranges_greatestFirst : Arranges greatestFirst where
  trans left middle right hleft hright := by
    rw [greatestFirst_iff] at hleft hright ⊢
    exact String.le_trans hright hleft
  total left right := by
    rw [greatestFirst_iff, greatestFirst_iff]
    exact String.le_total right.spelling left.spelling
  antisymm left right hleft hright := by
    rw [greatestFirst_iff] at hleft hright
    exact String.le_antisymm hright hleft
  extension_before left right hextension := by
    rw [greatestFirst_iff]
    exact hextension.le

end Entry

namespace MatchOrder

variable {before : Entry → Entry → Bool} {vocabulary : Vocabulary}

@[simp]
theorem mem_sortedBy {entry : Entry} :
    entry ∈ (sortedBy before vocabulary).entries ↔ entry ∈ vocabulary.entries :=
  List.mem_mergeSort

theorem perm_sortedBy : (sortedBy before vocabulary).entries.Perm vocabulary.entries :=
  List.mergeSort_perm vocabulary.entries before

theorem nodup_spellings_sortedBy :
    ((sortedBy before vocabulary).entries.map Entry.spelling).Nodup :=
  (perm_sortedBy.map Entry.spelling).nodup_iff.mpr vocabulary.nodup_spellings

theorem pairwise_spelling_ne_sortedBy :
    (sortedBy before vocabulary).entries.Pairwise fun left right =>
      left.spelling ≠ right.spelling :=
  List.pairwise_map.mp nodup_spellings_sortedBy

/-- No spelling occurs twice, so the first place that is found for a spelling is its only one. -/
theorem position?_sortedBy_eq_some_iff {spelling : String} {place : Nat} :
    (sortedBy before vocabulary).position? spelling = some place ↔
      ∃ kind, (sortedBy before vocabulary).entries[place]? = some ⟨spelling, kind⟩ := by
  rw [position?, List.findIdx?_eq_some_iff_getElem]
  simp only [beq_iff_eq]
  constructor
  · rintro ⟨hbound, rfl, -⟩
    exact ⟨_, List.getElem?_eq_getElem hbound⟩
  · rintro ⟨kind, hentry⟩
    obtain ⟨hbound, heq⟩ := List.getElem?_eq_some_iff.mp hentry
    refine ⟨hbound, congrArg Entry.spelling heq, ?_⟩
    intro earlier hlt hsame
    have hne := List.pairwise_iff_getElem.mp pairwise_spelling_ne_sortedBy earlier place
      (Nat.lt_trans hlt hbound) hbound hlt
    apply hne
    rw [hsame, heq]

theorem pairwise_before_sortedBy (harranges : Entry.Arranges before) :
    (sortedBy before vocabulary).entries.Pairwise fun left right => before left right = true :=
  List.pairwise_mergeSort harranges.trans
    (fun left right => by simpa using harranges.total left right) vocabulary.entries

/-- Sorting by an arrangement is strict, because no spelling occurs twice. -/
theorem pairwise_sortedBy (harranges : Entry.Arranges before) :
    (sortedBy before vocabulary).entries.Pairwise fun left right =>
      before left right = true ∧ left.spelling ≠ right.spelling :=
  (pairwise_before_sortedBy harranges).and pairwise_spelling_ne_sortedBy

/-- No entry of a sorted vocabulary stands before an extension of itself. -/
theorem pairwise_not_extended_sortedBy (harranges : Entry.Arranges before) :
    (sortedBy before vocabulary).entries.Pairwise fun left right =>
      ¬ left.spelling.toList <+: right.spelling.toList := by
  refine (pairwise_sortedBy harranges).imp ?_
  rintro left right ⟨hbefore, hne⟩ hextension
  have hafter := harranges.extension_before left right hextension
  exact hne (harranges.antisymm left right hbefore hafter)

end MatchOrder

end PhpLexicon
