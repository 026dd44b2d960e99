import PhpLexicon.Proofs.Acceptance
import PhpLexicon.Proofs.PrefixChain

/-!
# Longest matches

Matching compares no lengths: it takes the first entry of a sorted list with which a text begins.
That entry is nevertheless the longest of all with which the text begins, because it heads the chain
of the candidates.
-/

namespace PhpLexicon

/-- An entry of a list with which a text begins, and next to which every other spelling of the list
with which the text begins is shorter. -/
structure LongestBeginning (entries : List Entry) (text : List Char) (entry : Entry) : Prop where
  mem : entry ∈ entries
  begins : entry.spelling.toList <+: text
  length_lt : ∀ other ∈ entries, other.spelling ≠ entry.spelling →
    other.spelling.toList <+: text → other.spelling.length < entry.spelling.length

namespace LongestBeginning

variable {entries others : List Entry} {text : List Char} {entry : Entry}

theorem iff_and :
    LongestBeginning entries text entry ↔
      entry ∈ entries ∧ entry.spelling.toList <+: text ∧
        ∀ other ∈ entries, other.spelling ≠ entry.spelling →
          other.spelling.toList <+: text → other.spelling.length < entry.spelling.length := by
  constructor
  · intro hlongest
    exact ⟨hlongest.mem, hlongest.begins, hlongest.length_lt⟩
  · intro hall
    exact ⟨hall.1, hall.2.1, hall.2.2⟩

instance : Decidable (LongestBeginning entries text entry) :=
  decidable_of_iff' _ iff_and

theorem spelling_eq {other : Entry} (hentry : LongestBeginning entries text entry)
    (hother : LongestBeginning entries text other) : entry.spelling = other.spelling := by
  by_cases heq : entry.spelling = other.spelling
  · exact heq
  · have hlt := hother.length_lt entry hentry.mem heq hentry.begins
    have hgt := hentry.length_lt other hother.mem (Ne.symm heq) hother.begins
    omega

/-- What is the longest in a text is the longest in every beginning of the text that still holds
it. -/
theorem of_beginning {shorter : List Char} (hlongest : LongestBeginning entries text entry)
    (hbeginning : shorter <+: text) (hbegins : entry.spelling.toList <+: shorter) :
    LongestBeginning entries shorter entry where
  mem := hlongest.mem
  begins := hbegins
  length_lt other hother hne hshorter :=
    hlongest.length_lt other hother hne (hshorter.trans hbeginning)

/-- An entry is the longest in its own spelling. -/
theorem of_mem (hmem : entry ∈ entries) :
    LongestBeginning entries entry.spelling.toList entry where
  mem := hmem
  begins := List.prefix_refl _
  length_lt other hother hne hbegins := by
    have hle := hbegins.length_le
    have hlength : other.spelling.toList.length ≠ entry.spelling.toList.length := fun heq =>
      hne (String.toList_inj.mp (hbegins.eq_of_length heq))
    rw [String.length_toList, String.length_toList] at hle hlength
    omega

/-- Only the entries with which the text begins count. -/
theorem of_mem_iff
    (hmem : ∀ other : Entry, other.spelling.toList <+: text → (other ∈ entries ↔ other ∈ others))
    (hlongest : LongestBeginning entries text entry) : LongestBeginning others text entry where
  mem := (hmem entry hlongest.begins).mp hlongest.mem
  begins := hlongest.begins
  length_lt other hother hne hbegins :=
    hlongest.length_lt other ((hmem other hbegins).mpr hother) hne hbegins

end LongestBeginning

namespace MatchOrder

variable {before : Entry → Entry → Bool} {vocabulary : Vocabulary} {text : List Char}
variable {entry : Entry}

theorem hit?_eq_none_iff {order : MatchOrder} :
    order.hit? text = none ↔ ∀ entry ∈ order.entries, ¬ entry.spelling.toList <+: text := by
  simp [hit?]

/-- The hit heads the chain of the candidates, so all others are shorter. -/
theorem longestBeginning_of_hit? (harranges : Entry.Arranges before)
    (hhit : (sortedBy before vocabulary).hit? text = some entry) :
    LongestBeginning vocabulary.entries text entry where
  mem := mem_sortedBy.mp (mem_of_hit? hhit)
  begins := Entry.begins_iff.mp (begins_of_hit? hhit)
  length_lt other hother hne hbegins := by
    rw [← head?_candidates, List.head?_eq_some_iff] at hhit
    obtain ⟨shorter, hcandidates⟩ := hhit
    have hdecreasing : ((sortedBy before vocabulary).candidates text).Pairwise fun left right =>
        right.spelling.length < left.spelling.length :=
      pairwise_candidates_sortedBy harranges
    have hcandidate : other ∈ (sortedBy before vocabulary).candidates text :=
      mem_candidates.mpr ⟨mem_sortedBy.mpr hother, hbegins⟩
    rw [hcandidates] at hdecreasing hcandidate
    cases List.mem_cons.mp hcandidate with
    | inl heq => exact absurd (congrArg Entry.spelling heq) hne
    | inr hshorter => exact List.rel_of_pairwise_cons hdecreasing hshorter

theorem hit?_sortedBy_eq_some_iff (harranges : Entry.Arranges before) :
    (sortedBy before vocabulary).hit? text = some entry ↔
      LongestBeginning vocabulary.entries text entry := by
  constructor
  · exact longestBeginning_of_hit? harranges
  · intro hlongest
    cases hhit : (sortedBy before vocabulary).hit? text with
    | none =>
        have hmem : entry ∈ (sortedBy before vocabulary).entries := mem_sortedBy.mpr hlongest.mem
        exact absurd hlongest.begins (hit?_eq_none_iff.mp hhit entry hmem)
    | some other =>
        have hother := longestBeginning_of_hit? harranges hhit
        have heq := vocabulary.eq_of_spelling_eq hother.mem hlongest.mem
          (hother.spelling_eq hlongest)
        rw [heq]

theorem hit?_sortedBy_eq_none_iff :
    (sortedBy before vocabulary).hit? text = none ↔
      ∀ entry ∈ vocabulary.entries, ¬ entry.spelling.toList <+: text := by
  rw [hit?_eq_none_iff]
  simp only [mem_sortedBy]

end MatchOrder

namespace Lexicon

variable {lexicon : Lexicon} {text : List Char} {entry : Entry}

theorem order_hit?_eq_some_iff :
    lexicon.order.hit? text = some entry ↔
      LongestBeginning lexicon.vocabulary.entries text entry := by
  rw [lexicon.order_eq]
  exact MatchOrder.hit?_sortedBy_eq_some_iff Entry.arranges_longestFirst

theorem order_hit?_eq_none_iff :
    lexicon.order.hit? text = none ↔
      ∀ entry ∈ lexicon.vocabulary.entries, ¬ entry.spelling.toList <+: text := by
  rw [lexicon.order_eq]
  exact MatchOrder.hit?_sortedBy_eq_none_iff

@[simp]
theorem order_hit?_nil : lexicon.order.hit? [] = none := by
  rw [order_hit?_eq_none_iff]
  intro entry hentry hbegins
  rw [List.prefix_nil, String.toList_eq_nil_iff] at hbegins
  exact lexicon.vocabulary.spelling_ne_empty entry hentry hbegins

theorem order_hit?_eq_some_of_beginning {shorter : List Char} (hbeginning : shorter <+: text)
    (hbegins : entry.spelling.toList <+: shorter) (hhit : lexicon.order.hit? text = some entry) :
    lexicon.order.hit? shorter = some entry := by
  rw [order_hit?_eq_some_iff] at hhit ⊢
  exact hhit.of_beginning hbeginning hbegins

theorem order_hit?_eq_none_of_beginning {shorter : List Char} (hbeginning : shorter <+: text)
    (hmiss : lexicon.order.hit? text = none) : lexicon.order.hit? shorter = none := by
  rw [order_hit?_eq_none_iff] at hmiss ⊢
  intro entry hentry hbegins
  exact hmiss entry hentry (hbegins.trans hbeginning)

/-- Two lexicons find the same hit at a text when they have the same entries with which it
begins. -/
theorem order_hit?_congr {other : Lexicon}
    (hmem : ∀ entry : Entry, entry.spelling.toList <+: text →
      (entry ∈ lexicon.vocabulary.entries ↔ entry ∈ other.vocabulary.entries)) :
    lexicon.order.hit? text = other.order.hit? text := by
  apply Option.ext
  intro entry
  rw [order_hit?_eq_some_iff, order_hit?_eq_some_iff]
  constructor
  · exact LongestBeginning.of_mem_iff hmem
  · exact LongestBeginning.of_mem_iff fun entry hbegins => (hmem entry hbegins).symm

/-- Every accepted list of entries makes a lexicon, and the match that the lexicon finds is the
longest spelling of the list with which the text begins.  It finds none only where there is none,
and what it finds is never empty. -/
theorem longestMatch?_maximal {entries : List Entry} {vocabulary : Vocabulary}
    (hbuild : Vocabulary.ofEntries entries = .ok vocabulary) (names : List (Kind × String)) :
    ∃ lexicon, ofLists names entries = .ok lexicon ∧
      ∀ text : String,
        (∀ entry, lexicon.longestMatch? text = some entry ↔
          LongestBeginning entries text.toList entry) ∧
        (lexicon.longestMatch? text = none ↔
          ∀ entry ∈ entries, ¬ entry.spelling.toList <+: text.toList) ∧
        ∀ entry, lexicon.longestMatch? text = some entry → entry.spelling ≠ "" := by
  refine ⟨of (NameTable.ofList names) vocabulary, ofLists_eq_ok_iff.mpr ⟨vocabulary, hbuild, rfl⟩,
    ?_⟩
  intro text
  rw [← Vocabulary.entries_ofEntries hbuild]
  refine ⟨fun entry => order_hit?_eq_some_iff, order_hit?_eq_none_iff, ?_⟩
  intro entry hmatch
  exact vocabulary.spelling_ne_empty entry (order_hit?_eq_some_iff.mp hmatch).mem

/-- The longest of the spellings that begin with an exclamation mark wins. -/
theorem longestMatch?_maximal_builtin :
    Vocabulary.ofEntries Vocabulary.builtinEntries = .ok Vocabulary.builtin ∧
      ∃ lexicon, ofLists [] Vocabulary.builtinEntries = .ok lexicon ∧
        lexicon.longestMatch? "!==$b" = some ⟨"!==", .strongNotEqualityOperator⟩ := by
  have hbuild : Vocabulary.ofEntries Vocabulary.builtinEntries = .ok Vocabulary.builtin :=
    Vocabulary.ofEntries_entries Vocabulary.builtin
  obtain ⟨lexicon, hlexicon, hmatch⟩ := longestMatch?_maximal hbuild []
  obtain ⟨hlongest, -, -⟩ := hmatch "!==$b"
  exact ⟨hbuild, lexicon, hlexicon, (hlongest _).mpr (by decide +kernel)⟩

end Lexicon

end PhpLexicon
