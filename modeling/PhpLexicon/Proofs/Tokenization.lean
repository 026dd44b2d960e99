import PhpLexicon.Proofs.MunchRounds

/-!
# Lossless tokenization

The munch loop ends on every text and loses nothing of it.  Each token stands where the loop had to
choose it: a spelling is the longest at its place, and a character stays alone only where no match
was found or none was looked up.  A token by itself is a text that is cut into that token again.
-/

namespace PhpLexicon

theorem Token.exists_mem_placedFrom (start : Nat) {token : Token} {tokens : List Token}
    (hmem : token ∈ tokens) : ∃ place, (place, token) ∈ placedFrom start tokens := by
  induction tokens generalizing start with
  | nil => cases hmem
  | cons head tail ih =>
      rcases List.mem_cons.mp hmem with rfl | htail
      · exact ⟨start, List.mem_cons_self⟩
      · obtain ⟨place, hplace⟩ := ih (start + head.text.length) htail
        exact ⟨place, List.mem_cons_of_mem _ hplace⟩

namespace Lexicon

variable {lexicon : Lexicon} {lookup : Lookup}

/-- A character stays alone where no spelling matches, or where no match is looked up. -/
theorem unmatched_or_not_lead_of_next? {text : List Char} {char : Char}
    (hnext : lexicon.next? lookup text = some (.stray char)) :
    (∀ entry ∈ lexicon.vocabulary.entries, ¬ entry.spelling.toList <+: text) ∨
      lookup = .atLeads ∧ lexicon.startsOperator char = false := by
  obtain ⟨hmiss, hhead⟩ := next?_eq_stray_iff.mp hnext
  obtain ⟨rest, rfl⟩ := List.head?_eq_some_iff.mp hhead
  rw [hit?_cons] at hmiss
  by_cases hlooks : lexicon.looksUpAt lookup char
  · rw [if_pos hlooks] at hmiss
    exact Or.inl (order_hit?_eq_none_iff.mp hmiss)
  · cases lookup with
    | everywhere => exact absurd rfl hlooks
    | atLeads => exact Or.inr ⟨rfl, eq_false_of_ne_true hlooks⟩

theorem next?_of_mem_munch {text : String} {place : Nat} {token : Token}
    (hmem : (place, token) ∈ Token.placedFrom 0 (lexicon.munch lookup text)) :
    lexicon.next? lookup (text.toList.drop place) = some token :=
  (cuts_munchChars text.toList).next?_of_mem_placedFrom hmem

theorem join_munch (text : String) :
    String.join ((lexicon.munch lookup text).map Token.text) = text := by
  apply String.toList_inj.mp
  rw [String.toList_join, List.flatMap_map]
  exact (cuts_munchChars text.toList).flatMap_text

/-- A text that a round takes as a whole is cut into a single token. -/
theorem munch_eq_singleton {token : Token}
    (hnext : lexicon.next? lookup token.text.toList = some token) :
    lexicon.munch lookup token.text = [token] := by
  symm
  apply Cuts.eq_munchChars
  apply Cuts.round hnext
  rw [← String.length_toList, List.drop_length]
  exact Cuts.done

/-- The loop over the lexicon of any accepted list, guarded or not, ends on every text after at most
as many rounds as there are characters.  The tokens put together are the text, and none is empty.
Every spelling among them is registered with its kind and is the longest at its place, and every
single character stands where no spelling matches or no operator can begin.  Each token by itself is
cut into that token again. -/
theorem munch_lossless {names : List (Kind × String)} {entries : List Entry}
    (hbuild : ofLists names entries = .ok lexicon) (lookup : Lookup) (text : String) :
    (∀ tokens, lexicon.Cuts lookup text.toList tokens ↔ tokens = lexicon.munch lookup text) ∧
      (lexicon.munch lookup text).length ≤ text.length ∧
      String.join ((lexicon.munch lookup text).map Token.text) = text ∧
      (∀ token ∈ lexicon.munch lookup text, token.text ≠ "") ∧
      (∀ place entry, (place, .spelled entry) ∈ Token.placedFrom 0 (lexicon.munch lookup text) →
        lexicon.kindOf? entry.spelling = some entry.kind ∧
          LongestBeginning entries (text.toList.drop place) entry) ∧
      (∀ place char, (place, .stray char) ∈ Token.placedFrom 0 (lexicon.munch lookup text) →
        (text.toList.drop place).head? = some char ∧
          ((∀ entry ∈ entries, ¬ entry.spelling.toList <+: text.toList.drop place) ∨
            lookup = .atLeads ∧ lexicon.startsOperator char = false)) ∧
      ∀ token ∈ lexicon.munch lookup text, lexicon.munch lookup token.text = [token] := by
  rw [← entries_ofLists hbuild]
  refine ⟨fun tokens => cuts_iff, ?_, join_munch text, ?_, ?_, ?_, ?_⟩
  · rw [← String.length_toList]
    exact (cuts_munchChars text.toList).length_le
  · intro token hmem
    obtain ⟨place, hplaced⟩ := Token.exists_mem_placedFrom 0 hmem
    exact text_ne_empty_of_next? (next?_of_mem_munch hplaced)
  · intro place entry hplaced
    have hlongest := longestBeginning_of_hit? (next?_eq_spelled_iff.mp (next?_of_mem_munch hplaced))
    exact ⟨Vocabulary.kindOf?_eq_some_iff.mpr hlongest.mem, hlongest⟩
  · intro place char hplaced
    have hnext := next?_of_mem_munch hplaced
    exact ⟨(next?_eq_stray_iff.mp hnext).2, unmatched_or_not_lead_of_next? hnext⟩
  · intro token hmem
    obtain ⟨place, hplaced⟩ := Token.exists_mem_placedFrom 0 hmem
    exact munch_eq_singleton (next?_text (next?_of_mem_munch hplaced))

/-- A text with a word, a symbol that is no lead, and an operator, cut behind the leads. -/
theorem munch_lossless_builtin :
    ofLists NameTable.builtinNames Vocabulary.builtinEntries = .ok builtin ∧
      builtin.Cuts .atLeads "if→!==".toList (builtin.munch .atLeads "if→!==") ∧
      String.join ((builtin.munch .atLeads "if→!==").map Token.text) = "if→!==" := by
  obtain ⟨hcuts, -, hjoin, -⟩ := munch_lossless ofLists_builtin .atLeads "if→!=="
  exact ⟨ofLists_builtin, (hcuts _).mpr rfl, hjoin⟩

end Lexicon

end PhpLexicon
