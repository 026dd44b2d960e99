import Mathlib.Data.List.Sort
import PhpLexicon.Proofs.Acceptance
import PhpLexicon.Proofs.Arrangement
import PhpLexicon.Proofs.Listing

/-!
# Reordered entries

A lexicon depends on the entries that were registered and not on the order in which they were met.
Every list that it shows is sorted strictly, so its members alone determine it, whichever way the
entries were listed and sorted; every other answer is a matter of membership.
-/

namespace PhpLexicon

/-- An arrangement sorts the entries of a vocabulary in one way only, whatever list of them is
sorted and whatever sorts it. -/
theorem MatchOrder.eq_entries_sortedBy {before : Entry → Entry → Bool} {vocabulary : Vocabulary}
    {entries : List Entry} (harranges : Entry.Arranges before)
    (hperm : entries.Perm vocabulary.entries)
    (hsorted : entries.Pairwise fun left right => before left right = true) :
    entries = (sortedBy before vocabulary).entries := by
  have hlisting : entries.Perm (sortedBy before vocabulary).entries :=
    hperm.trans perm_sortedBy.symm
  apply List.Perm.eq_of_pairwise _ hsorted (pairwise_before_sortedBy harranges) hlisting
  -- Entries that precede each other have one spelling, and a spelling has one entry.
  intro left right hleft hright hbefore hafter
  apply vocabulary.eq_of_spelling_eq (hperm.mem_iff.mp hleft) (mem_sortedBy.mp hright)
  exact harranges.antisymm left right hbefore hafter

/-- The vocabulary of the same entries in another order. -/
def Vocabulary.reordered (vocabulary : Vocabulary) (entries : List Entry)
    (hperm : entries.Perm vocabulary.entries) : Vocabulary where
  entries := entries
  spelling_ne_empty := (vocabulary.acceptable_entries.perm hperm.symm).spelling_ne_empty
  nodup_spellings := (vocabulary.acceptable_entries.perm hperm.symm).nodup_spellings

section Permuted

variable {left right : Vocabulary}

theorem Vocabulary.kindOf?_eq_of_perm (hperm : left.entries.Perm right.entries)
    (spelling : String) : left.kindOf? spelling = right.kindOf? spelling := by
  apply Option.ext
  intro kind
  rw [kindOf?_eq_some_iff, kindOf?_eq_some_iff, hperm.mem_iff]

theorem Vocabulary.classOf?_eq_of_perm (hperm : left.entries.Perm right.entries)
    (spelling : String) : left.classOf? spelling = right.classOf? spelling := by
  rw [classOf?, classOf?, kindOf?_eq_of_perm hperm]

theorem Vocabulary.spellingsOf_eq_of_perm (hperm : left.entries.Perm right.entries)
    (kind : Kind) : left.spellingsOf kind = right.spellingsOf kind := by
  have hlisting : (left.spellingsOf kind).Perm (right.spellingsOf kind) :=
    calc
      (left.spellingsOf kind).Perm
          ((left.entries.filter (fun entry => entry.kind == kind)).map Entry.spelling) :=
        perm_spellingsOf
      List.Perm _ ((right.entries.filter (fun entry => entry.kind == kind)).map Entry.spelling) :=
        (hperm.filter _).map _
      List.Perm _ (right.spellingsOf kind) := perm_spellingsOf.symm
  apply List.Perm.eq_of_pairwise _ pairwise_le_spellingsOf pairwise_le_spellingsOf hlisting
  intro first second _ _ hle hge
  exact String.le_antisymm hle hge

theorem MatchOrder.sortedBy_eq_of_perm {before : Entry → Entry → Bool}
    (harranges : Entry.Arranges before) (hperm : left.entries.Perm right.entries) :
    sortedBy before left = sortedBy before right := by
  have hentries : (sortedBy before left).entries = (sortedBy before right).entries :=
    eq_entries_sortedBy harranges (perm_sortedBy.trans hperm) (pairwise_before_sortedBy harranges)
  rw [MatchOrder.mk.injEq]
  exact hentries

theorem LeadSet.chars_eq_of_perm (hperm : left.entries.Perm right.entries) :
    (ofVocabulary left).chars = (ofVocabulary right).chars := by
  apply (ofVocabulary left).ascending.eq_of_mem_iff (ofVocabulary right).ascending
  intro char
  rw [mem_chars_ofVocabulary, mem_chars_ofVocabulary]
  simp only [hperm.mem_iff]

end Permuted

namespace Lexicon

/-- Two lexicons that give the same answers, whatever they are asked. -/
structure SameAnswers (left right : Lexicon) : Prop where
  names : left.names = right.names
  kindOf? : ∀ spelling, left.kindOf? spelling = right.kindOf? spelling
  classOf? : ∀ spelling, left.classOf? spelling = right.classOf? spelling
  longestFirst : left.order.entries = right.order.entries
  descending : (MatchOrder.descending left.vocabulary).entries =
    (MatchOrder.descending right.vocabulary).entries
  leads : left.leads.chars = right.leads.chars
  spellingsOf : ∀ kind, left.vocabulary.spellingsOf kind = right.vocabulary.spellingsOf kind
  longestMatch? : ∀ text, left.longestMatch? text = right.longestMatch? text
  size_vocabulary : left.vocabulary.size = right.vocabulary.size
  size_order : left.order.size = right.order.size
  size_leads : left.leads.size = right.leads.size

theorem sameAnswers_of_perm (names : NameTable) {left right : Vocabulary}
    (hperm : left.entries.Perm right.entries) : SameAnswers (of names left) (of names right) := by
  have horder : MatchOrder.longestFirst left = MatchOrder.longestFirst right :=
    MatchOrder.sortedBy_eq_of_perm Entry.arranges_longestFirst hperm
  have hdescending : MatchOrder.descending left = MatchOrder.descending right :=
    MatchOrder.sortedBy_eq_of_perm Entry.arranges_greatestFirst hperm
  have hleads : (LeadSet.ofVocabulary left).chars = (LeadSet.ofVocabulary right).chars :=
    LeadSet.chars_eq_of_perm hperm
  exact {
    names := rfl
    kindOf? := Vocabulary.kindOf?_eq_of_perm hperm
    classOf? := Vocabulary.classOf?_eq_of_perm hperm
    longestFirst := congrArg MatchOrder.entries horder
    descending := congrArg MatchOrder.entries hdescending
    leads := hleads
    spellingsOf := Vocabulary.spellingsOf_eq_of_perm hperm
    longestMatch? := fun text => congrArg (MatchOrder.longestMatch? · text) horder
    size_vocabulary := hperm.length_eq
    size_order := congrArg MatchOrder.size horder
    size_leads := congrArg List.length hleads }

/-- The order in which entries are registered makes no difference.  A list is accepted when a
permutation of it is, and the two lexicons give the same answers.  Nor does it matter in which order
the registered entries are met when the match order, the leads and the listings are worked out, or
how the match orders are sorted. -/
theorem ofLists_perm {entries others : List Entry} (hperm : entries.Perm others)
    (names : List (Kind × String)) :
    ((∃ lexicon, ofLists names entries = .ok lexicon) ↔
        ∃ lexicon, ofLists names others = .ok lexicon) ∧
      (∀ left right, ofLists names entries = .ok left → ofLists names others = .ok right →
        SameAnswers left right) ∧
      (∀ (vocabulary : Vocabulary) (first second : List Entry)
        (hfirst : first.Perm vocabulary.entries) (hsecond : second.Perm vocabulary.entries),
        SameAnswers (of (NameTable.ofList names) (vocabulary.reordered first hfirst))
          (of (NameTable.ofList names) (vocabulary.reordered second hsecond))) ∧
      ∀ (vocabulary : Vocabulary) (sorted : List Entry), sorted.Perm vocabulary.entries →
        (sorted.Pairwise (fun left right => left.longestFirst right = true) →
          sorted = (MatchOrder.longestFirst vocabulary).entries) ∧
        (sorted.Pairwise (fun left right => left.greatestFirst right = true) →
          sorted = (MatchOrder.descending vocabulary).entries) := by
  refine ⟨?_, ?_, ?_, ?_⟩
  · rw [exists_ofLists_eq_ok_iff, exists_ofLists_eq_ok_iff]
    exact ⟨fun hentries => hentries.perm hperm, fun hothers => hothers.perm hperm.symm⟩
  · intro left right hleft hright
    obtain ⟨leftVocabulary, hentries, rfl⟩ := ofLists_eq_ok_iff.mp hleft
    obtain ⟨rightVocabulary, hothers, rfl⟩ := ofLists_eq_ok_iff.mp hright
    apply sameAnswers_of_perm
    rw [Vocabulary.entries_ofEntries hentries, Vocabulary.entries_ofEntries hothers]
    exact hperm
  · intro vocabulary first second hfirst hsecond
    exact sameAnswers_of_perm _ (hfirst.trans hsecond.symm)
  · intro vocabulary sorted hsorted
    exact ⟨MatchOrder.eq_entries_sortedBy Entry.arranges_longestFirst hsorted,
      MatchOrder.eq_entries_sortedBy Entry.arranges_greatestFirst hsorted⟩

/-- The built-in entries in reverse make a lexicon with the answers of the built-in one. -/
theorem ofLists_perm_builtin :
    Vocabulary.builtinEntries.Perm Vocabulary.builtinEntries.reverse ∧
      ∃ lexicon,
        ofLists NameTable.builtinNames Vocabulary.builtinEntries.reverse = .ok lexicon ∧
          SameAnswers builtin lexicon := by
  have hperm : Vocabulary.builtinEntries.Perm Vocabulary.builtinEntries.reverse :=
    (List.reverse_perm _).symm
  obtain ⟨haccepted, hsame, -⟩ := ofLists_perm hperm NameTable.builtinNames
  obtain ⟨lexicon, hlexicon⟩ := haccepted.mp ⟨builtin, ofLists_builtin⟩
  exact ⟨hperm, lexicon, hlexicon, hsame builtin lexicon ofLists_builtin hlexicon⟩

end Lexicon

end PhpLexicon
