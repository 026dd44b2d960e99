import PhpLexicon.Proofs.Acceptance

/-!
# What the leads say about a spelling

The class of a spelling depends on its first character alone, so all spellings with the same first
character have the same class.  A lexicon therefore knows from the first character whether the
spellings that begin with it are symbols, and its leads are no fewer and no more than that takes.
-/

namespace PhpLexicon

theorem SpellingClass.of?_eq_symbol_iff {spelling : String} :
    SpellingClass.of? spelling = some .symbol ↔
      ∃ first ∈ CharSet.symbols, spelling.toList.head? = some first := by
  cases hhead : spelling.toList.head? with
  | none => simp [of?, hhead]
  | some first =>
      by_cases hsymbol : first ∈ CharSet.symbols
      · simp [of?, hhead, hsymbol]
      · simp [of?, hhead, hsymbol]

namespace Entry

/-- Whether the spelling of the entry is a symbol. -/
def isSymbol (entry : Entry) : Bool :=
  decide (SpellingClass.of? entry.spelling = some .symbol)

theorem isSymbol_iff {entry : Entry} {first : Char}
    (hhead : entry.spelling.toList.head? = some first) :
    entry.isSymbol = true ↔ first ∈ CharSet.symbols := by
  rw [isSymbol, decide_eq_true_iff, SpellingClass.of?_eq_symbol_iff, hhead]
  constructor
  · intro hfirst
    obtain ⟨other, hsymbol, heq⟩ := hfirst
    rw [Option.some.injEq] at heq
    rwa [heq]
  · intro hsymbol
    exact ⟨first, hsymbol, rfl⟩

theorem lead?_eq_some_iff {entry : Entry} {char : Char} :
    entry.lead? = some char ↔
      entry.spelling.toList.head? = some char ∧ entry.isSymbol = true := by
  rw [isSymbol, decide_eq_true_iff, lead?]
  split
  · rename_i hclass
    simp [hclass]
  · rename_i hclass
    constructor
    · intro hnone
      cases hnone
    · intro hlead
      exact absurd hlead.2 hclass

/-- An entry has a lead just when its spelling is a symbol. -/
theorem exists_lead?_iff {entry : Entry} :
    (∃ char, entry.lead? = some char) ↔ SpellingClass.of? entry.spelling = some .symbol := by
  simp only [lead?_eq_some_iff, isSymbol, decide_eq_true_iff, exists_and_right,
    and_iff_right_iff_imp, SpellingClass.of?_eq_symbol_iff]
  rintro ⟨first, -, hhead⟩
  exact ⟨first, hhead⟩

/-- A spelling with which a text begins shares the first character of the text. -/
theorem head?_spelling_of_begins {entry : Entry} {first : Char} {rest : List Char}
    (hne : entry.spelling ≠ "") (hbegins : entry.spelling.toList <+: first :: rest) :
    entry.spelling.toList.head? = some first := by
  cases hchars : entry.spelling.toList with
  | nil => exact absurd (String.toList_eq_nil_iff.mp hchars) hne
  | cons head tail =>
      rw [hchars, List.cons_prefix_cons] at hbegins
      rw [hbegins.1, List.head?_cons]

end Entry

/-- There are no leads just when no entry is a symbol. -/
theorem LeadSet.isEmpty_ofVocabulary_iff {vocabulary : Vocabulary} :
    (ofVocabulary vocabulary).isEmpty = true ↔
      ∀ entry ∈ vocabulary.entries, SpellingClass.of? entry.spelling ≠ some .symbol := by
  rw [isEmpty, List.isEmpty_iff, List.eq_nil_iff_forall_not_mem]
  constructor
  · intro hempty entry hentry hsymbol
    obtain ⟨char, hlead⟩ := Entry.exists_lead?_iff.mpr hsymbol
    exact hempty char (mem_chars_ofVocabulary.mpr ⟨entry, hentry, hlead⟩)
  · intro hnone char hchar
    obtain ⟨entry, hentry, hlead⟩ := mem_chars_ofVocabulary.mp hchar
    exact hnone entry hentry (Entry.exists_lead?_iff.mp ⟨char, hlead⟩)

namespace Lexicon

variable {lexicon : Lexicon} {first : Char}

/-- A character can begin an operator just when it is a symbol and begins some spelling. -/
theorem startsOperator_iff :
    lexicon.startsOperator first = true ↔
      first ∈ CharSet.symbols ∧
        ∃ entry ∈ lexicon.vocabulary.entries, entry.spelling.toList.head? = some first := by
  rw [startsOperator, LeadSet.contains_iff, lexicon.leads_eq, LeadSet.mem_chars_ofVocabulary]
  constructor
  · intro hleads
    obtain ⟨entry, hentry, hlead⟩ := hleads
    obtain ⟨hhead, hsymbol⟩ := Entry.lead?_eq_some_iff.mp hlead
    exact ⟨(Entry.isSymbol_iff hhead).mp hsymbol, entry, hentry, hhead⟩
  · intro hfirst
    obtain ⟨hsymbol, entry, hentry, hhead⟩ := hfirst
    have hlead := Entry.lead?_eq_some_iff.mpr ⟨hhead, (Entry.isSymbol_iff hhead).mpr hsymbol⟩
    exact ⟨entry, hentry, hlead⟩

/-- Of a registered spelling with which a text begins, the first character of the text tells whether
it is a symbol. -/
theorem isSymbol_iff_startsOperator {entry : Entry} {rest : List Char}
    (hentry : entry ∈ lexicon.vocabulary.entries)
    (hbegins : entry.spelling.toList <+: first :: rest) :
    entry.isSymbol = true ↔ lexicon.startsOperator first = true := by
  have hne := lexicon.vocabulary.spelling_ne_empty entry hentry
  have hhead := Entry.head?_spelling_of_begins hne hbegins
  rw [Entry.isSymbol_iff hhead, startsOperator_iff]
  constructor
  · intro hsymbol
    exact ⟨hsymbol, entry, hentry, hhead⟩
  · exact And.left

theorem classOf?_eq_symbol_iff {entry : Entry} (hentry : entry ∈ lexicon.vocabulary.entries) :
    lexicon.classOf? entry.spelling = some .symbol ↔ entry.isSymbol = true := by
  have hkind : lexicon.vocabulary.kindOf? entry.spelling = some entry.kind :=
    Vocabulary.kindOf?_eq_some_iff.mpr hentry
  simp [classOf?, Vocabulary.classOf?, hkind, Entry.isSymbol]

theorem isEmpty_leads_iff :
    lexicon.leads.isEmpty = true ↔
      ∀ entry ∈ lexicon.vocabulary.entries,
        SpellingClass.of? entry.spelling ≠ some .symbol := by
  rw [lexicon.leads_eq]
  exact LeadSet.isEmpty_ofVocabulary_iff

/-- The first character of a registered spelling tells its class. -/
theorem exists_first_of_mem {entry : Entry} (hentry : entry ∈ lexicon.vocabulary.entries) :
    ∃ first, entry.spelling.toList.head? = some first ∧
      (lexicon.classOf? entry.spelling = some .symbol ↔ lexicon.startsOperator first = true) := by
  have hne := lexicon.vocabulary.spelling_ne_empty entry hentry
  cases hchars : entry.spelling.toList with
  | nil => exact absurd (String.toList_eq_nil_iff.mp hchars) hne
  | cons first rest =>
      have hbegins : entry.spelling.toList <+: first :: rest := hchars ▸ List.prefix_refl _
      have hclass := (classOf?_eq_symbol_iff hentry).trans
        (isSymbol_iff_startsOperator hentry hbegins)
      exact ⟨first, List.head?_cons, hclass⟩

/-- The leads of the lexicon of an accepted list are exact.  A character can begin an operator just
when it is a symbol and some spelling of the list begins with it.  The leads are these characters in
the order of their code points, each once; there are none just when no spelling of the list is a
symbol; and a registered spelling is a symbol just when its first character is a lead. -/
theorem leads_exact {names : List (Kind × String)} {entries : List Entry}
    (hbuild : ofLists names entries = .ok lexicon) :
    (∀ char, lexicon.startsOperator char = true ↔
        char ∈ CharSet.symbols ∧
          ∃ entry ∈ entries, entry.spelling.toList.head? = some char) ∧
      (∀ char, char ∈ lexicon.leads.chars ↔ lexicon.startsOperator char = true) ∧
      lexicon.leads.chars.Pairwise (fun left right => left.toNat < right.toNat) ∧
      lexicon.leads.chars.Nodup ∧
      (lexicon.leads.isEmpty = true ↔
        ∀ entry ∈ entries, SpellingClass.of? entry.spelling ≠ some .symbol) ∧
      ∀ entry ∈ entries, ∃ first, entry.spelling.toList.head? = some first ∧
        (lexicon.classOf? entry.spelling = some .symbol ↔
          lexicon.startsOperator first = true) := by
  rw [← entries_ofLists hbuild]
  exact ⟨fun _ => startsOperator_iff, fun _ => LeadSet.contains_iff.symm, lexicon.leads.ascending,
    lexicon.leads.ascending.nodup, isEmpty_leads_iff, fun _ => exists_first_of_mem⟩

/-- An arrow from beyond the first code points is a lead.  A letter is none, though a spelling
begins with it, and neither is a symbol with which no spelling begins. -/
theorem leads_exact_arrow :
    ∃ lexicon, ofLists [] [⟨"→", .objectOperator⟩, ⟨"do", .doKeyword⟩, ⟨"=>", .arrayKeyOperator⟩] =
        .ok lexicon ∧
      lexicon.startsOperator '→' = true ∧ ¬ lexicon.startsOperator 'd' = true ∧
      ¬ lexicon.startsOperator '>' = true ∧ ¬ lexicon.leads.isEmpty = true := by
  have hacceptable : Vocabulary.Acceptable [⟨"→", .objectOperator⟩, ⟨"do", .doKeyword⟩,
      ⟨"=>", .arrayKeyOperator⟩] := ⟨by decide, by decide⟩
  obtain ⟨lexicon, hbuild⟩ := exists_ofLists_eq_ok_iff.mpr hacceptable
  obtain ⟨hstarts, -, -, -, hempty, -⟩ := leads_exact hbuild
  have harrow : lexicon.startsOperator '→' = true := (hstarts '→').mpr (by decide +kernel)
  have hletter : ¬ lexicon.startsOperator 'd' = true := fun hlead =>
    absurd ((hstarts 'd').mp hlead) (by decide)
  have hsecond : ¬ lexicon.startsOperator '>' = true := fun hlead =>
    absurd ((hstarts '>').mp hlead) (by decide)
  have hsome : ¬ lexicon.leads.isEmpty = true := fun hnone =>
    absurd (hempty.mp hnone) (by decide +kernel)
  exact ⟨lexicon, hbuild, harrow, hletter, hsecond, hsome⟩

end Lexicon

end PhpLexicon
