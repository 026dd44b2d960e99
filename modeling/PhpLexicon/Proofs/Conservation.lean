import PhpLexicon.Proofs.GuardedMunch

/-!
# New spellings that do not occur

More entries change nothing about a text in which none of their spellings occurs.  No round of the
loop can then meet one of them, so the longest match is the same with and without them.  The guard
may let more characters through, but what it lets through is decided by the hit: a hit is kept just
when it is a symbol, whatever the other entries are.
-/

namespace PhpLexicon.Lexicon

variable {lexicon extended : Lexicon} {lookup : Lookup} {text : List Char} {others : List Entry}

/-- Entries that do not match at a text have no say in the hit. -/
theorem hit?_eq_of_append
    (hentries : extended.vocabulary.entries = lexicon.vocabulary.entries ++ others)
    (hmiss : ∀ entry ∈ others, ¬ entry.spelling.toList <+: text) :
    extended.hit? lookup text = lexicon.hit? lookup text := by
  have heverywhere : extended.hit? .everywhere text = lexicon.hit? .everywhere text := by
    apply order_hit?_congr
    intro entry hbegins
    rw [hentries, List.mem_append]
    exact or_iff_left fun hentry => hmiss entry hentry hbegins
  cases lookup with
  | everywhere => exact heverywhere
  | atLeads => rw [hit?_atLeads_eq_filter, hit?_atLeads_eq_filter, heverywhere]

theorem next?_eq_of_append
    (hentries : extended.vocabulary.entries = lexicon.vocabulary.entries ++ others)
    (hmiss : ∀ entry ∈ others, ¬ entry.spelling.toList <+: text) :
    extended.next? lookup text = lexicon.next? lookup text := by
  cases text with
  | nil => rfl
  | cons first rest => rw [next?, next?, hit?_eq_of_append hentries hmiss]

/-- More entries are a conservative extension.  When they are accepted behind a list, the list alone
makes a lexicon too, and on every text in which no spelling of the new entries occurs both lexicons
emit the same tokens, whether matches are looked up everywhere or behind the leads, which may have
become more. -/
theorem munch_append_of_absent {names : List (Kind × String)} {entries others : List Entry}
    (hbuild : ofLists names (entries ++ others) = .ok extended) :
    ∃ lexicon, ofLists names entries = .ok lexicon ∧
      ∀ text : String, (∀ entry ∈ others, ¬ entry.spelling.toList <:+: text.toList) →
        ∀ lookup : Lookup, extended.munch lookup text = lexicon.munch lookup text := by
  obtain ⟨lexicon, hlexicon⟩ :=
    exists_ofLists_of_sublist (List.sublist_append_left entries others) hbuild names
  refine ⟨lexicon, hlexicon, ?_⟩
  intro text habsent lookup
  have hentries : extended.vocabulary.entries = lexicon.vocabulary.entries ++ others := by
    rw [entries_ofLists hbuild, entries_ofLists hlexicon]
  apply munchChars_congr
  intro rest hrest
  apply next?_eq_of_append hentries
  -- What begins the rest of the text occurs in the text.
  intro entry hentry hbegins
  exact habsent entry hentry (hbegins.isInfix.trans hrest.isInfix)

/-- A new operator of two arrows makes the arrow a lead, and a text with a single arrow is cut as
before. -/
theorem munch_append_of_absent_builtin :
    ∃ extended, ofLists NameTable.builtinNames
        (Vocabulary.builtinEntries ++ [⟨"→→", .objectOperator⟩]) = .ok extended ∧
      builtin.startsOperator '→' = false ∧ extended.startsOperator '→' = true ∧
      extended.munch .atLeads "$a→!==$b" = builtin.munch .atLeads "$a→!==$b" := by
  obtain ⟨extended, hextended⟩ := exists_ofLists_builtin_append
    [⟨"→→", .objectOperator⟩] ⟨by decide, by decide⟩ (by decide +kernel)
  obtain ⟨lexicon, hlexicon, hmunch⟩ := munch_append_of_absent hextended
  cases hlexicon.symm.trans ofLists_builtin
  refine ⟨extended, hextended, by decide +kernel, ?_, ?_⟩
  · rw [startsOperator_iff, entries_ofLists hextended]
    exact ⟨by decide, ⟨"→→", .objectOperator⟩, by simp, rfl⟩
  · apply hmunch
    decide +kernel

end PhpLexicon.Lexicon
