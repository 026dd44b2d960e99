import PhpLexicon.Proofs.MunchRounds
import PhpLexicon.Proofs.OperatorLeads

/-!
# Munching behind the leads

A loop that looks up a match only at a lead is a loop over the symbols of the vocabulary.  At a lead
every spelling that can match is a symbol, and elsewhere no symbol can match, so the guard rejects
neither too much nor too little, round by round.
-/

namespace PhpLexicon.Lexicon

variable {lexicon operators : Lexicon} {text : List Char}

/-- Behind a lead the words of the vocabulary cannot match, so they may as well be missing. -/
theorem hit?_atLeads_eq
    (hoperators : operators.vocabulary.entries = lexicon.vocabulary.entries.filter Entry.isSymbol) :
    lexicon.hit? .atLeads text = operators.hit? .everywhere text := by
  cases text with
  | nil => rw [hit?_nil, hit?_nil]
  | cons first rest =>
      rw [hit?_cons, hit?_cons, looksUpAt, looksUpAt, if_pos rfl]
      by_cases hlead : lexicon.startsOperator first
      · rw [if_pos hlead]
        apply order_hit?_congr
        intro entry hbegins
        rw [hoperators, List.mem_filter]
        constructor
        · intro hentry
          exact ⟨hentry, (isSymbol_iff_startsOperator hentry hbegins).mpr hlead⟩
        · exact And.left
      · rw [if_neg hlead, eq_comm, order_hit?_eq_none_iff]
        intro entry hentry hbegins
        rw [hoperators, List.mem_filter] at hentry
        exact hlead ((isSymbol_iff_startsOperator hentry.1 hbegins).mp hentry.2)

/-- The guard lets through the hits that are symbols, and no others. -/
theorem hit?_atLeads_eq_filter :
    lexicon.hit? .atLeads text = (lexicon.hit? .everywhere text).filter Entry.isSymbol := by
  cases text with
  | nil => rw [hit?_nil, hit?_nil, Option.filter_none]
  | cons first rest =>
      rw [hit?_cons, hit?_cons, looksUpAt, looksUpAt, if_pos rfl]
      cases hhit : lexicon.order.hit? (first :: rest) with
      | none => rw [Option.filter_none, ite_self]
      | some entry =>
          have hlongest := order_hit?_eq_some_iff.mp hhit
          have hsymbol := isSymbol_iff_startsOperator hlongest.mem hlongest.begins
          by_cases hlead : lexicon.startsOperator first
          · rw [if_pos hlead, Option.filter_some_pos (hsymbol.mpr hlead)]
          · have hword : entry.isSymbol = false := eq_false_of_ne_true fun hentry =>
              hlead (hsymbol.mp hentry)
            rw [if_neg hlead, Option.filter_some_neg hword]

theorem next?_atLeads_eq
    (hoperators : operators.vocabulary.entries = lexicon.vocabulary.entries.filter Entry.isSymbol) :
    lexicon.next? .atLeads text = operators.next? .everywhere text := by
  cases text with
  | nil => rfl
  | cons first rest => rw [next?, next?, hit?_atLeads_eq hoperators]

/-- The leads guard the loop exactly.  A match is a symbol just when the character at which it was
found is a lead, and the guarded loop emits what the unguarded loop emits over the symbols alone. -/
theorem munch_atLeads_eq_munch_symbols {names : List (Kind × String)} {entries : List Entry}
    (hbuild : ofLists names entries = .ok lexicon) :
    (∀ (text : String) (first : Char) (entry : Entry), text.toList.head? = some first →
        lexicon.longestMatch? text = some entry →
          (lexicon.classOf? entry.spelling = some .symbol ↔
            lexicon.startsOperator first = true)) ∧
      ∃ operators, ofLists names (entries.filter Entry.isSymbol) = .ok operators ∧
        ∀ text : String, lexicon.munch .atLeads text = operators.munch .everywhere text := by
  constructor
  · intro text first entry hhead hmatch
    have hlongest := order_hit?_eq_some_iff.mp hmatch
    obtain ⟨rest, htext⟩ := List.head?_eq_some_iff.mp hhead
    have hbegins := hlongest.begins
    rw [htext] at hbegins
    rw [classOf?_eq_symbol_iff hlongest.mem]
    exact isSymbol_iff_startsOperator hlongest.mem hbegins
  · obtain ⟨operators, hsymbols⟩ := exists_ofLists_of_sublist List.filter_sublist hbuild names
    refine ⟨operators, hsymbols, ?_⟩
    intro text
    apply munchChars_congr
    intro rest _
    apply next?_atLeads_eq
    rw [entries_ofLists hsymbols, entries_ofLists hbuild]

/-- The match at an exclamation mark is a symbol, and the guarded loop passes over the word. -/
theorem munch_atLeads_eq_munch_symbols_builtin :
    ofLists NameTable.builtinNames Vocabulary.builtinEntries = .ok builtin ∧
      builtin.longestMatch? "!==$b" = some ⟨"!==", .strongNotEqualityOperator⟩ ∧
      (builtin.classOf? "!==" = some .symbol ↔ builtin.startsOperator '!' = true) ∧
      ∃ operators,
        ofLists NameTable.builtinNames (Vocabulary.builtinEntries.filter Entry.isSymbol) =
          .ok operators ∧
        builtin.munch .atLeads "if($a!==$b)" = operators.munch .everywhere "if($a!==$b)" := by
  obtain ⟨hclass, operators, hsymbols, hmunch⟩ := munch_atLeads_eq_munch_symbols ofLists_builtin
  have hmatch : builtin.longestMatch? "!==$b" = some ⟨"!==", .strongNotEqualityOperator⟩ :=
    order_hit?_eq_some_iff.mpr (by decide +kernel)
  exact ⟨ofLists_builtin, hmatch, hclass "!==$b" '!' _ (by decide) hmatch, operators, hsymbols,
    hmunch "if($a!==$b)"⟩

end PhpLexicon.Lexicon
