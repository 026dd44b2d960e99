import PhpLexicon.Proofs.LongestMatch
import PhpLexicon.Proofs.OperatorLeads
import PhpLexicon.Proofs.Reordering

/-!
# Merged lists of entries

The entries of two lists make one lexicon when no spelling of one list occurs in the other.  Every
answer of that lexicon is then made of the answers of the two: a look-up is found in one of them,
the leads are put together, and of two matches the longer wins.  The match order of the whole keeps
the entries of each part in their order.
-/

namespace PhpLexicon

variable {text : List Char}

namespace Entry

/-- The entry with the longer spelling.  Of two spellings of one length the first is taken. -/
def longer (left right : Entry) : Entry :=
  if left.spelling.length < right.spelling.length then right else left

/-- The entries of a list whose spelling does not occur among those of another. -/
def without (entries removed : List Entry) : List Entry :=
  entries.filter fun entry => decide (entry.spelling ∉ removed.map Entry.spelling)

/-- Beginnings of one text that differ have different lengths. -/
theorem length_ne_of_begins {left right : Entry} (hne : left.spelling ≠ right.spelling)
    (hleft : left.spelling.toList <+: text) (hright : right.spelling.toList <+: text) :
    left.spelling.length ≠ right.spelling.length := by
  rw [← String.length_toList, ← String.length_toList]
  intro hlength
  have hbeginning : left.spelling.toList <+: right.spelling.toList :=
    List.prefix_of_prefix_length_le hleft hright (Nat.le_of_eq hlength)
  exact hne (String.toList_inj.mp (hbeginning.eq_of_length hlength))

end Entry

namespace LongestBeginning

variable {entries others : List Entry} {entry : Entry}

/-- The longest of some entries is the longest of more, if those that come in and match are
shorter. -/
theorem append (hlongest : LongestBeginning entries text entry)
    (hshorter : ∀ other ∈ others, other.spelling.toList <+: text →
      other.spelling.length < entry.spelling.length) :
    LongestBeginning (entries ++ others) text entry where
  mem := List.mem_append_left others hlongest.mem
  begins := hlongest.begins
  length_lt other hother hne hbegins := by
    rcases List.mem_append.mp hother with hold | hnew
    · exact hlongest.length_lt other hold hne hbegins
    · exact hshorter other hnew hbegins

theorem append_comm (hlongest : LongestBeginning (entries ++ others) text entry) :
    LongestBeginning (others ++ entries) text entry := by
  apply hlongest.of_mem_iff
  intro other _
  rw [List.mem_append, List.mem_append]
  exact or_comm

theorem length_le (hlongest : LongestBeginning entries text entry) {other : Entry}
    (hother : other ∈ entries) (hbegins : other.spelling.toList <+: text) :
    other.spelling.length ≤ entry.spelling.length := by
  by_cases heq : other.spelling = entry.spelling
  · exact Nat.le_of_eq (congrArg String.length heq)
  · exact Nat.le_of_lt (hlongest.length_lt other hother heq hbegins)

end LongestBeginning

namespace Vocabulary

/-- The entries of a vocabulary are those of two others, the second behind the first. -/
def Merges (merged left right : Vocabulary) : Prop :=
  merged.entries = left.entries ++ right.entries

namespace Merges

variable {merged left right : Vocabulary} (hmerges : merged.Merges left right)
include hmerges

theorem mem_iff {entry : Entry} :
    entry ∈ merged.entries ↔ entry ∈ left.entries ∨ entry ∈ right.entries := by
  rw [hmerges, List.mem_append]

/-- The two parts have no spelling in common. -/
theorem spelling_ne {first second : Entry} (hfirst : first ∈ left.entries)
    (hsecond : second ∈ right.entries) : first.spelling ≠ second.spelling := by
  have hacceptable := merged.acceptable_entries
  rw [hmerges, acceptable_append_iff] at hacceptable
  obtain ⟨-, -, hapart⟩ := hacceptable
  exact hapart first hfirst second hsecond

theorem kindOf?_eq (spelling : String) :
    merged.kindOf? spelling = (left.kindOf? spelling).or (right.kindOf? spelling) := by
  rw [kindOf?, kindOf?, kindOf?, hmerges, List.find?_append, Option.map_or]

theorem mem_leads_iff {char : Char} :
    char ∈ (LeadSet.ofVocabulary merged).chars ↔
      char ∈ (LeadSet.ofVocabulary left).chars ∨ char ∈ (LeadSet.ofVocabulary right).chars := by
  simp only [LeadSet.mem_chars_ofVocabulary, hmerges.mem_iff, or_and_right, exists_or]

/-- Words bring no leads. -/
theorem leads_eq_of_words
    (hwords : ∀ entry ∈ right.entries, SpellingClass.of? entry.spelling = some .word) :
    (LeadSet.ofVocabulary merged).chars = (LeadSet.ofVocabulary left).chars := by
  apply (LeadSet.ofVocabulary merged).ascending.eq_of_mem_iff (LeadSet.ofVocabulary left).ascending
  intro char
  rw [hmerges.mem_leads_iff, or_iff_left_iff_imp, LeadSet.mem_chars_ofVocabulary]
  rintro ⟨entry, hentry, hlead⟩
  simp [Entry.lead?, hwords entry hentry] at hlead

/-- Taking the second part out of the whole leaves the first. -/
theorem without_eq : Entry.without merged.entries right.entries = left.entries := by
  have hkept : Entry.without left.entries right.entries = left.entries := by
    rw [Entry.without, List.filter_eq_self]
    intro first hfirst
    rw [decide_eq_true_iff, List.mem_map]
    rintro ⟨second, hsecond, heq⟩
    exact hmerges.spelling_ne hfirst hsecond heq.symm
  have hremoved : Entry.without right.entries right.entries = [] := by
    rw [Entry.without, List.filter_eq_nil_iff]
    intro second hsecond
    rw [decide_eq_true_iff, Decidable.not_not]
    exact List.mem_map_of_mem hsecond
  calc
    Entry.without merged.entries right.entries =
        Entry.without left.entries right.entries ++ Entry.without right.entries right.entries := by
      rw [hmerges]
      exact List.filter_append _ _
    _ = left.entries := by rw [hkept, hremoved, List.append_nil]

/-- Sorting the first part is sorting the whole and taking the second part out. -/
theorem entries_sortedBy_eq {before : Entry → Entry → Bool} (harranges : Entry.Arranges before) :
    (MatchOrder.sortedBy before left).entries =
      Entry.without (MatchOrder.sortedBy before merged).entries right.entries := by
  symm
  apply MatchOrder.eq_entries_sortedBy harranges
  · calc
      (Entry.without (MatchOrder.sortedBy before merged).entries right.entries).Perm
          (Entry.without merged.entries right.entries) :=
        MatchOrder.perm_sortedBy.filter _
      List.Perm _ left.entries := List.Perm.of_eq hmerges.without_eq
  · exact (MatchOrder.pairwise_before_sortedBy harranges).filter _

end Merges

end Vocabulary

namespace Lexicon

variable {merged left right : Lexicon}

/-- No spelling matches with the length of one from the other part. -/
theorem length_ne_of_order_hit?
    (hmerges : merged.vocabulary.Merges left.vocabulary right.vocabulary) {first second : Entry}
    (hfirst : left.order.hit? text = some first) (hsecond : right.order.hit? text = some second) :
    first.spelling.length ≠ second.spelling.length := by
  rw [order_hit?_eq_some_iff] at hfirst hsecond
  exact Entry.length_ne_of_begins (hmerges.spelling_ne hfirst.mem hsecond.mem) hfirst.begins
    hsecond.begins

/-- Of the hits in the two parts the longer is the hit in the whole. -/
theorem order_hit?_merged
    (hmerges : merged.vocabulary.Merges left.vocabulary right.vocabulary) :
    merged.order.hit? text =
      Option.merge Entry.longer (left.order.hit? text) (right.order.hit? text) := by
  cases hleft : left.order.hit? text with
  | none =>
      -- Nothing of the first part matches, so only the second part counts.
      rw [order_hit?_eq_none_iff] at hleft
      rw [Option.merge_none_left]
      apply order_hit?_congr
      intro entry hbegins
      rw [hmerges.mem_iff]
      exact or_iff_right fun hentry => hleft entry hentry hbegins
  | some first =>
      cases hright : right.order.hit? text with
      | none =>
          rw [order_hit?_eq_none_iff] at hright
          rw [Option.merge_none_right, ← hleft]
          apply order_hit?_congr
          intro entry hbegins
          rw [hmerges.mem_iff]
          exact or_iff_left fun hentry => hright entry hentry hbegins
      | some second =>
          have hlength := length_ne_of_order_hit? hmerges hleft hright
          rw [order_hit?_eq_some_iff] at hleft hright
          rw [Option.merge_some_some, order_hit?_eq_some_iff, hmerges, Entry.longer]
          split
          · apply LongestBeginning.append_comm
            apply hright.append
            intro other hother hbegins
            have hle := hleft.length_le hother hbegins
            omega
          · apply hleft.append
            intro other hother hbegins
            have hle := hright.length_le hother hbegins
            omega

/-- When the entries of two lists make a lexicon, so do those of each list, and the answers of the
whole are made of the answers of the parts.  A spelling has the kind that it has in the first part,
or else the one in the second.  The leads are those of both, so that words add none.  Of the longest
matches in the parts the longer is the longest match in the whole, and they are never equally long.
Either match order of the first part is the match order of the whole without the second part. -/
theorem ofLists_append {names : List (Kind × String)} {entries others : List Entry}
    (hbuild : ofLists names (entries ++ others) = .ok merged) :
    ∃ left right, ofLists names entries = .ok left ∧ ofLists names others = .ok right ∧
      (∀ spelling, merged.kindOf? spelling =
        (left.kindOf? spelling).or (right.kindOf? spelling)) ∧
      (∀ char, char ∈ merged.leads.chars ↔ char ∈ left.leads.chars ∨ char ∈ right.leads.chars) ∧
      ((∀ entry ∈ others, SpellingClass.of? entry.spelling = some .word) →
        merged.leads.chars = left.leads.chars) ∧
      (∀ text, merged.longestMatch? text =
        Option.merge Entry.longer (left.longestMatch? text) (right.longestMatch? text)) ∧
      (∀ text first second, left.longestMatch? text = some first →
        right.longestMatch? text = some second →
          first.spelling.length ≠ second.spelling.length) ∧
      left.order.entries = Entry.without merged.order.entries others ∧
      (MatchOrder.descending left.vocabulary).entries =
        Entry.without (MatchOrder.descending merged.vocabulary).entries others := by
  obtain ⟨left, hleft⟩ := exists_ofLists_of_sublist (List.sublist_append_left _ _) hbuild names
  obtain ⟨right, hright⟩ := exists_ofLists_of_sublist (List.sublist_append_right _ _) hbuild names
  have hmerges : merged.vocabulary.Merges left.vocabulary right.vocabulary := by
    rw [Vocabulary.Merges, entries_ofLists hbuild, entries_ofLists hleft, entries_ofLists hright]
  refine ⟨left, right, hleft, hright, hmerges.kindOf?_eq, ?_, ?_,
    fun _ => order_hit?_merged hmerges, fun _ _ _ => length_ne_of_order_hit? hmerges, ?_, ?_⟩
  · rw [merged.leads_eq, left.leads_eq, right.leads_eq]
    exact fun _ => hmerges.mem_leads_iff
  · rw [merged.leads_eq, left.leads_eq, ← entries_ofLists hright]
    exact hmerges.leads_eq_of_words
  · rw [merged.order_eq, left.order_eq, ← entries_ofLists hright]
    exact hmerges.entries_sortedBy_eq Entry.arranges_longestFirst
  · rw [← entries_ofLists hright]
    exact hmerges.entries_sortedBy_eq Entry.arranges_greatestFirst

/-- An operator that extends a built-in one wins over it, and new words bring no leads. -/
theorem ofLists_append_builtin :
    (∃ merged, ofLists NameTable.builtinNames
        (Vocabulary.builtinEntries ++ [⟨"==>", .arrayKeyOperator⟩]) = .ok merged ∧
      merged.longestMatch? "==>$x" = some ⟨"==>", .arrayKeyOperator⟩ ∧
      builtin.order.entries =
        Entry.without merged.order.entries [⟨"==>", .arrayKeyOperator⟩]) ∧
      ∃ merged, ofLists NameTable.builtinNames
          (Vocabulary.builtinEntries ++ [⟨"goto", .identifier⟩, ⟨"fn", .functionKeyword⟩]) =
            .ok merged ∧
        merged.leads.chars = builtin.leads.chars := by
  constructor
  · obtain ⟨merged, hmerged⟩ := exists_ofLists_builtin_append
      [⟨"==>", .arrayKeyOperator⟩] ⟨by decide, by decide⟩ (by decide +kernel)
    obtain ⟨left, right, hleft, hright, -, -, -, hmatch, -, horder, -⟩ := ofLists_append hmerged
    cases hleft.symm.trans ofLists_builtin
    have hshort : builtin.longestMatch? "==>$x" = some ⟨"==", .equalityOperator⟩ :=
      order_hit?_eq_some_iff.mpr (by decide +kernel)
    have hlong : right.longestMatch? "==>$x" = some ⟨"==>", .arrayKeyOperator⟩ := by
      apply order_hit?_eq_some_iff.mpr
      rw [entries_ofLists hright]
      decide
    refine ⟨merged, hmerged, ?_, horder⟩
    rw [hmatch, hshort, hlong]
    decide
  · obtain ⟨merged, hmerged⟩ := exists_ofLists_builtin_append
      [⟨"goto", .identifier⟩, ⟨"fn", .functionKeyword⟩] ⟨by decide, by decide⟩
      (by decide +kernel)
    obtain ⟨left, right, hleft, -, -, -, hwords, -⟩ := ofLists_append hmerged
    cases hleft.symm.trans ofLists_builtin
    exact ⟨merged, hmerged, hwords (by decide +kernel)⟩

end Lexicon

end PhpLexicon
