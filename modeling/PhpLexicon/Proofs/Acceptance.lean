import Mathlib.Data.List.Nodup
import PhpLexicon.Lexicon.Builtin
import PhpLexicon.Lexicon.Construction

/-!
# Acceptance of lists

A list of entries is accepted when it is the list of entries of a vocabulary, so whatever is taken
out of an accepted list leaves an accepted list.  In such a list a spelling has one entry, so looking
a spelling up finds the entry that is there.  A lexicon is made from the vocabulary alone: the
names can neither prevent it nor change its entries.
-/

namespace PhpLexicon

namespace Vocabulary

/-- A spelling has one entry only. -/
theorem eq_of_spelling_eq (vocabulary : Vocabulary) {left right : Entry}
    (hleft : left ∈ vocabulary.entries) (hright : right ∈ vocabulary.entries)
    (heq : left.spelling = right.spelling) : left = right :=
  List.inj_on_of_nodup_map vocabulary.nodup_spellings hleft hright heq

theorem kindOf?_eq_some_iff {vocabulary : Vocabulary} {spelling : String} {kind : Kind} :
    vocabulary.kindOf? spelling = some kind ↔ ⟨spelling, kind⟩ ∈ vocabulary.entries := by
  have hkind : ∀ {other : Kind}, vocabulary.kindOf? spelling = some other →
      ⟨spelling, other⟩ ∈ vocabulary.entries := by
    intro other hother
    obtain ⟨entry, hfound, rfl⟩ := Option.map_eq_some_iff.mp hother
    have hspelling := List.find?_some hfound
    rw [beq_iff_eq] at hspelling
    rw [← hspelling]
    exact List.mem_of_find?_eq_some hfound
  refine ⟨hkind, fun hmem => ?_⟩
  cases hlookup : vocabulary.kindOf? spelling with
  | none =>
      exact absurd (List.mem_map_of_mem hmem)
        (kindOf?_eq_none_iff.mp hlookup)
  | some other =>
      have heq := vocabulary.eq_of_spelling_eq (hkind hlookup) hmem rfl
      rw [Entry.mk.injEq] at heq
      rw [heq.2]

/-- Entries of which a vocabulary can be made: no spelling is empty, and none occurs twice. -/
structure Acceptable (entries : List Entry) : Prop where
  spelling_ne_empty : ∀ entry ∈ entries, entry.spelling ≠ ""
  nodup_spellings : (entries.map Entry.spelling).Nodup

namespace Acceptable

variable {entries others : List Entry}

theorem sublist (hacceptable : Acceptable entries) (hsublist : others.Sublist entries) :
    Acceptable others where
  spelling_ne_empty entry hentry := hacceptable.spelling_ne_empty entry (hsublist.subset hentry)
  nodup_spellings := hacceptable.nodup_spellings.sublist (hsublist.map Entry.spelling)

theorem perm (hacceptable : Acceptable entries) (hperm : entries.Perm others) :
    Acceptable others where
  spelling_ne_empty entry hentry :=
    hacceptable.spelling_ne_empty entry (hperm.mem_iff.mpr hentry)
  nodup_spellings := (hperm.map Entry.spelling).nodup_iff.mp hacceptable.nodup_spellings

end Acceptable

/-- Two lists are accepted as one when each is accepted and they share no spelling. -/
theorem acceptable_append_iff {entries others : List Entry} :
    Acceptable (entries ++ others) ↔
      Acceptable entries ∧ Acceptable others ∧
        ∀ entry ∈ entries, ∀ other ∈ others, entry.spelling ≠ other.spelling := by
  constructor
  · intro hboth
    refine ⟨hboth.sublist (List.sublist_append_left entries others),
      hboth.sublist (List.sublist_append_right entries others), ?_⟩
    intro entry hentry other hother
    have hnodup := hboth.nodup_spellings
    rw [List.map_append, List.nodup_append] at hnodup
    obtain ⟨-, -, hapart⟩ := hnodup
    exact hapart _ (List.mem_map_of_mem hentry) _ (List.mem_map_of_mem hother)
  · rintro ⟨hentries, hothers, hapart⟩
    constructor
    · intro entry hentry
      rcases List.mem_append.mp hentry with hfirst | hsecond
      · exact hentries.spelling_ne_empty entry hfirst
      · exact hothers.spelling_ne_empty entry hsecond
    · rw [List.map_append, List.nodup_append]
      refine ⟨hentries.nodup_spellings, hothers.nodup_spellings, ?_⟩
      intro first hfirst second hsecond
      obtain ⟨entry, hentry, rfl⟩ := List.mem_map.mp hfirst
      obtain ⟨other, hother, rfl⟩ := List.mem_map.mp hsecond
      exact hapart entry hentry other hother

theorem acceptable_entries (vocabulary : Vocabulary) : Acceptable vocabulary.entries :=
  ⟨vocabulary.spelling_ne_empty, vocabulary.nodup_spellings⟩

theorem exists_ofEntries_eq_ok_iff {entries : List Entry} :
    (∃ vocabulary, ofEntries entries = .ok vocabulary) ↔ Acceptable entries := by
  constructor
  · intro haccepted
    obtain ⟨vocabulary, hbuild⟩ := haccepted
    rw [← entries_ofEntries hbuild]
    exact vocabulary.acceptable_entries
  · intro hacceptable
    let vocabulary : Vocabulary :=
      ⟨entries, hacceptable.spelling_ne_empty, hacceptable.nodup_spellings⟩
    exact ⟨vocabulary, ofEntries_entries vocabulary⟩

end Vocabulary

namespace Lexicon

variable {names : List (Kind × String)} {entries : List Entry}

theorem ofLists_eq_map :
    ofLists names entries = (Vocabulary.ofEntries entries).map (of (NameTable.ofList names)) := by
  rw [ofLists]
  cases hbuild : Vocabulary.ofEntries entries with
  | ok vocabulary =>
      rw [Construction.run_of_ok hbuild]
      rfl
  | error fault =>
      rw [Construction.run_of_error hbuild]
      rfl

theorem ofLists_eq_ok_iff {lexicon : Lexicon} :
    ofLists names entries = .ok lexicon ↔
      ∃ vocabulary, Vocabulary.ofEntries entries = .ok vocabulary ∧
        of (NameTable.ofList names) vocabulary = lexicon := by
  rw [ofLists_eq_map]
  cases Vocabulary.ofEntries entries <;> simp [Except.map]

theorem ofLists_eq_error_iff {fault : VocabularyError} :
    ofLists names entries = .error fault ↔ Vocabulary.ofEntries entries = .error fault := by
  rw [ofLists_eq_map]
  cases Vocabulary.ofEntries entries <;> simp [Except.map]

/-- The names have no say in whether a lexicon is made. -/
theorem exists_ofLists_eq_ok_iff :
    (∃ lexicon, ofLists names entries = .ok lexicon) ↔ Vocabulary.Acceptable entries := by
  rw [← Vocabulary.exists_ofEntries_eq_ok_iff, ofLists_eq_map]
  cases Vocabulary.ofEntries entries <;> simp [Except.map]

theorem entries_ofLists {lexicon : Lexicon} (hbuild : ofLists names entries = .ok lexicon) :
    lexicon.vocabulary.entries = entries := by
  obtain ⟨vocabulary, hentries, rfl⟩ := ofLists_eq_ok_iff.mp hbuild
  exact Vocabulary.entries_ofEntries hentries

/-- What is left of a list that made a lexicon makes a lexicon. -/
theorem exists_ofLists_of_sublist {rest : List Entry} {lexicon : Lexicon}
    (hsublist : rest.Sublist entries) (hbuild : ofLists names entries = .ok lexicon)
    (otherNames : List (Kind × String)) :
    ∃ restricted, ofLists otherNames rest = .ok restricted := by
  have hacceptable := exists_ofLists_eq_ok_iff.mp ⟨lexicon, hbuild⟩
  exact exists_ofLists_eq_ok_iff.mpr (hacceptable.sublist hsublist)

/-- The built-in lists are accepted, and make the built-in lexicon. -/
theorem ofLists_builtin :
    ofLists NameTable.builtinNames Vocabulary.builtinEntries = .ok builtin :=
  ofLists_eq_ok_iff.mpr ⟨Vocabulary.builtin, Vocabulary.ofEntries_entries Vocabulary.builtin, rfl⟩

/-- More entries are accepted behind the built-in ones if their spellings are new. -/
theorem exists_ofLists_builtin_append (others : List Entry)
    (hothers : Vocabulary.Acceptable others)
    (hnew : ∀ entry ∈ Vocabulary.builtinEntries, ∀ other ∈ others,
      entry.spelling ≠ other.spelling) :
    ∃ lexicon, ofLists NameTable.builtinNames (Vocabulary.builtinEntries ++ others) =
      .ok lexicon :=
  exists_ofLists_eq_ok_iff.mpr <|
    Vocabulary.acceptable_append_iff.mpr ⟨Vocabulary.builtin.acceptable_entries, hothers, hnew⟩

end Lexicon

end PhpLexicon
