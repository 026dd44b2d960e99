import Mathlib.Data.Finset.Card
import PhpLexicon.Proofs.Acceptance
import PhpLexicon.Proofs.DisplayNames
import PhpLexicon.Proofs.OperatorLeads

/-!
# What the log tells of a construction

The log of a construction agrees with its outcome.  A lexicon is announced once, with numbers that
can be read off the lists of which it is made; a duplicate is announced once, as it is reported; and
an empty spelling is not announced.
-/

namespace PhpLexicon

/-- The characters with which the symbols of a list begin. -/
def Entry.operatorLeads (entries : List Entry) : Finset Char :=
  ((entries.filter Entry.isSymbol).filterMap fun entry => entry.spelling.toList.head?).toFinset

theorem Entry.mem_operatorLeads {entries : List Entry} {char : Char} :
    char ∈ operatorLeads entries ↔
      ∃ entry ∈ entries, SpellingClass.of? entry.spelling = some .symbol ∧
        entry.spelling.toList.head? = some char := by
  simp [operatorLeads, isSymbol, and_assoc]

/-- A vocabulary has as many leads as its list of entries. -/
theorem LeadSet.size_ofVocabulary (vocabulary : Vocabulary) :
    (ofVocabulary vocabulary).size = (Entry.operatorLeads vocabulary.entries).card := by
  have hleads : (ofVocabulary vocabulary).chars.toFinset =
      Entry.operatorLeads vocabulary.entries := by
    ext char
    rw [List.mem_toFinset, mem_chars_ofVocabulary, Entry.mem_operatorLeads]
    simp only [Entry.lead?_eq_some_iff, Entry.isSymbol, decide_eq_true_iff, and_comm]
  rw [← hleads, List.toFinset_card_of_nodup (ofVocabulary vocabulary).ascending.nodup]
  rfl

namespace Lexicon

variable {names : List (Kind × String)} {entries : List Entry} {lexicon : Lexicon}

/-- The sizes of a lexicon can be read off the lists of which it is made. -/
theorem sizes_ofLists (hbuild : ofLists names entries = .ok lexicon) :
    lexicon.vocabulary.size = entries.length ∧
      lexicon.leads.size = (Entry.operatorLeads entries).card ∧
      lexicon.names.missing.length = (NameTable.unnamedKinds names).card := by
  obtain ⟨vocabulary, hentries, rfl⟩ := ofLists_eq_ok_iff.mp hbuild
  rw [← Vocabulary.entries_ofEntries hentries]
  exact ⟨rfl, LeadSet.size_ofVocabulary vocabulary, NameTable.length_missing_ofList⟩

end Lexicon

namespace Construction

open Lexicon (sizes_ofLists)

variable {names : List (Kind × String)} {entries : List Entry}

/-- A construction fails with the fault of its entries. -/
theorem result_eq_error_iff {fault : VocabularyError} :
    (run names entries).result = .error fault ↔ Vocabulary.ofEntries entries = .error fault :=
  Lexicon.ofLists_eq_error_iff

/-- An entry that is refused behind accepted entries stops the construction. -/
theorem result_eq_error_of_insert {earlier later : List Entry} {entry : Entry}
    {vocabulary : Vocabulary} {fault : VocabularyError}
    (hbuild : Vocabulary.ofEntries earlier = .ok vocabulary)
    (hinsert : vocabulary.insert entry = .error fault) :
    (run names (earlier ++ entry :: later)).result = .error fault :=
  result_eq_error_iff.mpr (Vocabulary.ofEntries_eq_error_of_insert hbuild hinsert)

/-- A lexicon that is made is announced, and nothing else is logged. -/
theorem events_of_result_eq_ok {lexicon : Lexicon}
    (hresult : (run names entries).result = .ok lexicon) :
    (run names entries).events = [lexicon.builtEvent] := by
  obtain ⟨vocabulary, hentries, rfl⟩ := Lexicon.ofLists_eq_ok_iff.mp hresult
  rw [run_of_ok hentries]

/-- A fault that stops the construction is logged with its own events. -/
theorem events_of_result_eq_error {fault : VocabularyError}
    (hresult : (run names entries).result = .error fault) :
    (run names entries).events = fault.events := by
  rw [run_of_error (result_eq_error_iff.mp hresult)]

/-- The log of every construction tells its outcome.  A lexicon is announced by one event, with the
number of entries, of the different characters with which their symbols begin, and of the kinds
whose last name is missing or empty; these are the sizes of the lexicon.  A duplicate is announced
by one event with the spelling and the kinds of the fault.  An empty spelling is announced by none,
whatever stands before it. -/
theorem run_events (names : List (Kind × String)) (entries : List Entry) :
    (∀ lexicon, (run names entries).result = .ok lexicon →
        (run names entries).events = [.built entries.length (Entry.operatorLeads entries).card
          (NameTable.unnamedKinds names).card] ∧
        (run names entries).events.map BuildEvent.message = ["built token registry"] ∧
        lexicon.vocabulary.size = entries.length ∧
        lexicon.leads.size = (Entry.operatorLeads entries).card ∧
        lexicon.names.missing.length = (NameTable.unnamedKinds names).card) ∧
      (∀ spelling first second,
        (run names entries).result = .error (.duplicateSpelling spelling first second) →
          (run names entries).events = [.rejectedDuplicate spelling first second] ∧
          (run names entries).events.map BuildEvent.message = ["rejecting duplicate spelling"]) ∧
      ∀ kind, (run names entries).result = .error (.emptySpelling kind) →
        (run names entries).events = [] := by
  refine ⟨?_, ?_, fun kind => events_of_result_eq_error⟩
  · intro lexicon hresult
    obtain ⟨hsize, hleads, hmissing⟩ := sizes_ofLists hresult
    rw [events_of_result_eq_ok hresult, Lexicon.builtEvent, hsize, hleads, hmissing]
    exact ⟨rfl, rfl, rfl, rfl, rfl⟩
  · intro spelling first second hresult
    rw [events_of_result_eq_error hresult]
    exact ⟨rfl, rfl⟩

/-- Two symbols begin with one character, and one of two named kinds loses its name again.  Behind
the built-in entries a duplicate stands in front of an empty spelling, and an empty spelling in
front of a duplicate. -/
theorem run_events_builtin :
    (run [(.doKeyword, "do"), (.comma, ","), (.doKeyword, "")]
        [⟨"=>", .arrayKeyOperator⟩, ⟨"do", .doKeyword⟩, ⟨"=", .assignmentOperator⟩]).events =
        [.built 3 1 104] ∧
      (run [] (Vocabulary.builtinEntries ++ [⟨"==", .assignmentOperator⟩, ⟨"", .space⟩])).events =
        [.rejectedDuplicate "==" .equalityOperator .assignmentOperator] ∧
      (run [] (Vocabulary.builtinEntries ++ [⟨"", .space⟩, ⟨"==", .assignmentOperator⟩])).events =
        [] := by
  have hentries : Vocabulary.ofEntries Vocabulary.builtinEntries = .ok Vocabulary.builtin :=
    Vocabulary.ofEntries_entries Vocabulary.builtin
  have hkind : Vocabulary.builtin.kindOf? "==" = some .equalityOperator :=
    Vocabulary.kindOf?_eq_some_iff.mpr (by decide +kernel)
  refine ⟨?_, ?_, ?_⟩
  · have hacceptable : Vocabulary.Acceptable [⟨"=>", .arrayKeyOperator⟩, ⟨"do", .doKeyword⟩,
        ⟨"=", .assignmentOperator⟩] := ⟨by decide, by decide⟩
    obtain ⟨lexicon, hresult⟩ := Lexicon.exists_ofLists_eq_ok_iff.mpr hacceptable
    obtain ⟨hbuilt, -, -⟩ := run_events [(.doKeyword, "do"), (.comma, ","), (.doKeyword, "")]
      [⟨"=>", .arrayKeyOperator⟩, ⟨"do", .doKeyword⟩, ⟨"=", .assignmentOperator⟩]
    obtain ⟨hevents, -⟩ := hbuilt lexicon hresult
    rw [hevents]
    decide +kernel
  · obtain ⟨-, hduplicate, -⟩ := run_events []
      (Vocabulary.builtinEntries ++ [⟨"==", .assignmentOperator⟩, ⟨"", .space⟩])
    have hinsert : Vocabulary.builtin.insert ⟨"==", .assignmentOperator⟩ =
        .error (.duplicateSpelling "==" .equalityOperator .assignmentOperator) :=
      Vocabulary.insert_eq_duplicateSpelling (by decide) hkind
    obtain ⟨hevents, -⟩ := hduplicate _ _ _ (result_eq_error_of_insert hentries hinsert)
    exact hevents
  · obtain ⟨-, -, hempty⟩ := run_events []
      (Vocabulary.builtinEntries ++ [⟨"", .space⟩, ⟨"==", .assignmentOperator⟩])
    apply hempty .space
    exact result_eq_error_of_insert hentries (Vocabulary.builtin.insert_eq_emptySpelling rfl)

end Construction

end PhpLexicon
