import Mathlib.Tactic.TFAE
import PhpLexicon.Proofs.Listing
import PhpLexicon.Proofs.LongestMatch

/-!
# Views of a lexicon

An entry can be met in many ways: looked up by its spelling, listed with its kind, found at its
place in a match order, or matched against its own spelling.  All of them show the entries that were
registered, each with its kind, and no others.
-/

namespace PhpLexicon

namespace MatchOrder

variable {before : Entry → Entry → Bool} {vocabulary : Vocabulary} {spelling : String} {kind : Kind}

/-- At the place of a spelling stands its entry. -/
theorem exists_position?_sortedBy_iff :
    (∃ place, (sortedBy before vocabulary).position? spelling = some place ∧
        (sortedBy before vocabulary).entries[place]? = some ⟨spelling, kind⟩) ↔
      ⟨spelling, kind⟩ ∈ vocabulary.entries := by
  have hmem : ⟨spelling, kind⟩ ∈ (sortedBy before vocabulary).entries ↔
      ⟨spelling, kind⟩ ∈ vocabulary.entries := mem_sortedBy
  rw [← hmem, List.mem_iff_getElem?]
  constructor
  · rintro ⟨place, -, hentry⟩
    exact ⟨place, hentry⟩
  · rintro ⟨place, hentry⟩
    exact ⟨place, position?_sortedBy_eq_some_iff.mpr ⟨kind, hentry⟩, hentry⟩

/-- A spelling is matched as a whole in its own text. -/
theorem longestMatch?_sortedBy_self_iff (harranges : Entry.Arranges before) :
    (sortedBy before vocabulary).longestMatch? spelling = some ⟨spelling, kind⟩ ↔
      ⟨spelling, kind⟩ ∈ vocabulary.entries := by
  rw [longestMatch?, hit?_sortedBy_eq_some_iff harranges]
  exact ⟨LongestBeginning.mem, LongestBeginning.of_mem⟩

theorem size_sortedBy : (sortedBy before vocabulary).size = vocabulary.size :=
  perm_sortedBy.length_eq

end MatchOrder

theorem Vocabulary.isSome_classOf?_iff {vocabulary : Vocabulary} {spelling : String} :
    (vocabulary.classOf? spelling).isSome = true ↔ (vocabulary.kindOf? spelling).isSome = true := by
  cases hkind : vocabulary.kindOf? spelling with
  | none => simp [classOf?, hkind]
  | some kind =>
      have hne : spelling ≠ "" :=
        vocabulary.spelling_ne_empty ⟨spelling, kind⟩ (kindOf?_eq_some_iff.mp hkind)
      simp [classOf?, hkind, SpellingClass.of?, hne]

namespace Lexicon

open MatchOrder (descending)

/-- All views of the lexicon of an accepted list show the same entries: the list, the look-up, the
unordered and the ascending listing, the listing of a kind, and in either match order the place of a
spelling and the match in it.  A spelling has a class when it has a kind, and as many entries are
stored and tried as the list has. -/
theorem views_agree {names : List (Kind × String)} {entries : List Entry} {lexicon : Lexicon}
    (hbuild : ofLists names entries = .ok lexicon) :
    (∀ (spelling : String) (kind : Kind), List.TFAE [
        ⟨spelling, kind⟩ ∈ entries,
        lexicon.kindOf? spelling = some kind,
        ⟨spelling, kind⟩ ∈ lexicon.vocabulary.entries,
        ⟨spelling, kind⟩ ∈ lexicon.vocabulary.ascending,
        spelling ∈ lexicon.vocabulary.spellingsOf kind,
        ∃ place, lexicon.order.position? spelling = some place ∧
          lexicon.order.entries[place]? = some ⟨spelling, kind⟩,
        lexicon.longestMatch? spelling = some ⟨spelling, kind⟩,
        ∃ place, (descending lexicon.vocabulary).position? spelling = some place ∧
          (descending lexicon.vocabulary).entries[place]? = some ⟨spelling, kind⟩,
        (descending lexicon.vocabulary).longestMatch? spelling = some ⟨spelling, kind⟩]) ∧
      (∀ spelling, (lexicon.classOf? spelling).isSome = true ↔
        (lexicon.kindOf? spelling).isSome = true) ∧
      lexicon.vocabulary.size = entries.length ∧ lexicon.order.size = entries.length ∧
      (descending lexicon.vocabulary).size = entries.length := by
  have hentries := entries_ofLists hbuild
  subst hentries
  refine ⟨?_, fun spelling => Vocabulary.isSome_classOf?_iff, rfl, ?_, MatchOrder.size_sortedBy⟩
  · intro spelling kind
    tfae_have 1 ↔ 2 := Vocabulary.kindOf?_eq_some_iff.symm
    tfae_have 1 ↔ 3 := Iff.rfl
    tfae_have 1 ↔ 4 := Vocabulary.mem_ascending.symm
    tfae_have 1 ↔ 5 := Vocabulary.mem_spellingsOf.symm
    tfae_have 1 ↔ 6 := by
      rw [lexicon.order_eq]
      exact MatchOrder.exists_position?_sortedBy_iff.symm
    tfae_have 1 ↔ 7 := by
      rw [longestMatch?, lexicon.order_eq]
      exact (MatchOrder.longestMatch?_sortedBy_self_iff Entry.arranges_longestFirst).symm
    tfae_have 1 ↔ 8 := MatchOrder.exists_position?_sortedBy_iff.symm
    tfae_have 1 ↔ 9 :=
      (MatchOrder.longestMatch?_sortedBy_self_iff Entry.arranges_greatestFirst).symm
    tfae_finish
  · rw [lexicon.order_eq]
    exact MatchOrder.size_sortedBy

/-- An operator that has others as beginnings, in several views. -/
theorem views_agree_builtin :
    ofLists NameTable.builtinNames Vocabulary.builtinEntries = .ok builtin ∧
      ⟨"!==", .strongNotEqualityOperator⟩ ∈ Vocabulary.builtinEntries ∧
      "!==" ∈ builtin.vocabulary.spellingsOf .strongNotEqualityOperator ∧
      builtin.longestMatch? "!==" = some ⟨"!==", .strongNotEqualityOperator⟩ ∧
      ∃ place, (descending builtin.vocabulary).position? "!==" = some place ∧
        (descending builtin.vocabulary).entries[place]? =
          some ⟨"!==", .strongNotEqualityOperator⟩ := by
  have hmem : ⟨"!==", .strongNotEqualityOperator⟩ ∈ Vocabulary.builtinEntries := by
    decide +kernel
  obtain ⟨hagree, -⟩ := views_agree ofLists_builtin
  have hviews := hagree "!==" .strongNotEqualityOperator
  exact ⟨ofLists_builtin, hmem, (hviews.out 0 4).mp hmem, (hviews.out 0 6).mp hmem,
    (hviews.out 0 7).mp hmem⟩

end Lexicon

end PhpLexicon
