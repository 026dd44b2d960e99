import Mathlib.Data.List.Nodup
import Mathlib.Data.Nat.Find
import PhpLexicon.Proofs.Acceptance

/-!
# The first fault

A list of entries that is refused is refused for its first fault.  The entries in front of the fault
form a vocabulary, so the spelling of a duplicate stands there exactly once, and the kind under
which it was registered is the one that the fault names first.
-/

namespace PhpLexicon

namespace Vocabulary

variable {entries : List Entry} {place earlier : Nat} {spelling : String}

/-- The spelling at a place of a list of entries. -/
def spellingAt? (entries : List Entry) (place : Nat) : Option String :=
  entries[place]?.map Entry.spelling

/-- At the place there is an empty spelling, or one that stands at an earlier place as well. -/
def FaultyAt (entries : List Entry) (place : Nat) : Prop :=
  ∃ spelling, spellingAt? entries place = some spelling ∧
    (spelling = "" ∨ ∃ earlier < place, spellingAt? entries earlier = some spelling)

/-- The place is faulty, and none before it is. -/
structure FirstFault (entries : List Entry) (place : Nat) : Prop where
  faulty : FaultyAt entries place
  none_earlier : ∀ earlier < place, ¬ FaultyAt entries earlier

instance : Decidable (FaultyAt entries place) :=
  inferInstanceAs (Decidable (∃ spelling ∈ spellingAt? entries place,
    spelling = "" ∨ ∃ earlier < place, spellingAt? entries earlier = some spelling))

instance : Decidable (FirstFault entries place) :=
  decidable_of_iff (FaultyAt entries place ∧ ∀ earlier < place, ¬ FaultyAt entries earlier)
    ⟨fun hfirst => ⟨hfirst.1, hfirst.2⟩, fun hfirst => ⟨hfirst.faulty, hfirst.none_earlier⟩⟩

theorem spellingAt?_eq (entries : List Entry) (place : Nat) :
    spellingAt? entries place = (entries.map Entry.spelling)[place]? := by
  rw [spellingAt?, List.getElem?_map]

theorem spellingAt?_take {count : Nat} :
    spellingAt? (entries.take count) place =
      if place < count then spellingAt? entries place else none := by
  rw [spellingAt?, spellingAt?, List.getElem?_take]
  split <;> rfl

theorem faultyAt_of_take {count : Nat} (hfaulty : FaultyAt (entries.take count) place) :
    place < count ∧ FaultyAt entries place := by
  obtain ⟨spelling, hspelling, hfault⟩ := hfaulty
  rw [spellingAt?_take, Option.ite_none_right_eq_some] at hspelling
  refine ⟨hspelling.1, spelling, hspelling.2, ?_⟩
  apply hfault.imp_right
  rintro ⟨earlier, hlt, hearlier⟩
  rw [spellingAt?_take, Option.ite_none_right_eq_some] at hearlier
  exact ⟨earlier, hlt, hearlier.2⟩

/-- A list is accepted exactly when it is faulty nowhere. -/
theorem acceptable_iff_forall_not_faultyAt :
    Acceptable entries ↔ ∀ place, ¬ FaultyAt entries place := by
  constructor
  · rintro hacceptable place ⟨spelling, hspelling, hempty | ⟨earlier, hlt, hearlier⟩⟩
    · obtain ⟨entry, hentry, rfl⟩ := Option.map_eq_some_iff.mp hspelling
      exact hacceptable.spelling_ne_empty entry (List.mem_of_getElem? hentry) hempty
    · rw [spellingAt?_eq] at hspelling hearlier
      have hbound := (List.getElem?_eq_some_iff.mp hspelling).1
      exact List.nodup_iff_getElem?_ne_getElem?.mp hacceptable.nodup_spellings earlier place hlt
        hbound (hearlier.trans hspelling.symm)
  · intro hclean
    constructor
    · intro entry hentry hempty
      obtain ⟨place, hplace⟩ := List.mem_iff_getElem?.mp hentry
      have hspelling : spellingAt? entries place = some entry.spelling := by
        rw [spellingAt?, hplace, Option.map_some]
      exact hclean place ⟨entry.spelling, hspelling, Or.inl hempty⟩
    · rw [List.nodup_iff_getElem?_ne_getElem?]
      intro earlier place hlt hbound heq
      rw [← spellingAt?_eq, ← spellingAt?_eq] at heq
      have hspelling : spellingAt? entries place = some (entries.map Entry.spelling)[place] := by
        rw [spellingAt?_eq, List.getElem?_eq_getElem hbound]
      exact hclean place ⟨_, hspelling, Or.inr ⟨earlier, hlt, heq.trans hspelling⟩⟩

theorem exists_firstFault (hnot : ¬ Acceptable entries) : ∃ place, FirstFault entries place := by
  classical
  rw [acceptable_iff_forall_not_faultyAt, not_forall_not] at hnot
  exact ⟨Nat.find hnot, Nat.find_spec hnot, fun earlier hlt => Nat.find_min hnot hlt⟩

namespace FirstFault

/-- The entries in front of the first fault form a vocabulary. -/
theorem acceptable_take (hfirst : FirstFault entries place) :
    Acceptable (entries.take place) := by
  rw [acceptable_iff_forall_not_faultyAt]
  intro earlier hfaulty
  obtain ⟨hlt, hfault⟩ := faultyAt_of_take hfaulty
  exact hfirst.none_earlier earlier hlt hfault

/-- In front of the first fault every spelling stands at one place only. -/
theorem place_unique (hfirst : FirstFault entries place) {other : Nat}
    (hearlier : earlier < place) (hother : other < place)
    (hspelling : spellingAt? entries earlier = some spelling)
    (hsame : spellingAt? entries other = some spelling) : other = earlier := by
  -- Of two different places the later would itself be faulty, in front of the first fault.
  rcases Nat.lt_trichotomy other earlier with hlt | heq | hgt
  · exact absurd ⟨spelling, hspelling, Or.inr ⟨other, hlt, hsame⟩⟩
      (hfirst.none_earlier earlier hearlier)
  · exact heq
  · exact absurd ⟨spelling, hsame, Or.inr ⟨earlier, hgt, hspelling⟩⟩
      (hfirst.none_earlier other hother)

/-- A spelling at which the first fault is found, and which is not empty, stands before it. -/
theorem exists_earlier (hfirst : FirstFault entries place) (hne : spelling ≠ "")
    (hspelling : spellingAt? entries place = some spelling) :
    ∃ earlier < place, ∃ first, entries[earlier]? = some ⟨spelling, first⟩ := by
  obtain ⟨faulty, hfaulty, hfault⟩ := hfirst.faulty
  rw [hspelling, Option.some.injEq] at hfaulty
  subst hfaulty
  obtain ⟨earlier, hlt, hearlier⟩ := hfault.resolve_left hne
  obtain ⟨entry, hentry, rfl⟩ := Option.map_eq_some_iff.mp hearlier
  exact ⟨earlier, hlt, entry.kind, hentry⟩

/-- Registration reaches the first fault with the vocabulary of the entries in front of it, and
reports what it finds there. -/
theorem exists_insert (hfirst : FirstFault entries place) {entry : Entry}
    (hentry : entries[place]? = some entry) :
    ∃ vocabulary : Vocabulary, vocabulary.entries = entries.take place ∧
      ∀ fault, vocabulary.insert entry = .error fault → ofEntries entries = .error fault := by
  obtain ⟨vocabulary, hbuild⟩ := exists_ofEntries_eq_ok_iff.mpr hfirst.acceptable_take
  refine ⟨vocabulary, entries_ofEntries hbuild, ?_⟩
  intro fault hinsert
  obtain ⟨hbound, rfl⟩ := List.getElem?_eq_some_iff.mp hentry
  have hfault : ofEntries (entries.take place ++ entries[place] :: entries.drop (place + 1)) =
      .error fault :=
    ofEntries_eq_error_of_insert hbuild hinsert
  rwa [← List.drop_eq_getElem_cons hbound, List.take_append_drop] at hfault

theorem ofEntries_eq_emptySpelling (hfirst : FirstFault entries place) {kind : Kind}
    (hentry : entries[place]? = some ⟨"", kind⟩) :
    ofEntries entries = .error (.emptySpelling kind) := by
  obtain ⟨vocabulary, -, hreported⟩ := hfirst.exists_insert hentry
  exact hreported _ (vocabulary.insert_eq_emptySpelling rfl)

theorem ofEntries_eq_duplicateSpelling (hfirst : FirstFault entries place) {first second : Kind}
    (hne : spelling ≠ "") (hlt : earlier < place)
    (hearlier : entries[earlier]? = some ⟨spelling, first⟩)
    (hentry : entries[place]? = some ⟨spelling, second⟩) :
    ofEntries entries = .error (.duplicateSpelling spelling first second) := by
  obtain ⟨vocabulary, htake, hreported⟩ := hfirst.exists_insert hentry
  have hmem : ⟨spelling, first⟩ ∈ vocabulary.entries := by
    rw [htake]
    apply List.mem_of_getElem?
    rw [List.getElem?_take_of_lt hlt, hearlier]
  exact hreported _ (insert_eq_duplicateSpelling hne (kindOf?_eq_some_iff.mpr hmem))

end FirstFault

end Vocabulary

namespace Lexicon

open Vocabulary (Acceptable FirstFault spellingAt?)

/-- Neither a vocabulary nor, with whatever names, a lexicon is made of the entries, and the fault
is the reason. -/
def Refused (entries : List Entry) (fault : VocabularyError) : Prop :=
  Vocabulary.ofEntries entries = .error fault ∧ ∀ names, ofLists names entries = .error fault

theorem refused_of_ofEntries {entries : List Entry} {fault : VocabularyError}
    (hfault : Vocabulary.ofEntries entries = .error fault) : Refused entries fault :=
  ⟨hfault, fun _ => ofLists_eq_error_iff.mpr hfault⟩

/-- A list of entries is accepted exactly when no spelling is empty and none occurs twice.  Any
other list has a first fault, and that one is reported: an empty spelling with its kind, or else a
spelling that stands at exactly one earlier place, with the kind there and the kind here.  Entries
behind the fault change nothing. -/
theorem ofLists_first_fault (entries : List Entry) :
    ((∃ vocabulary, Vocabulary.ofEntries entries = .ok vocabulary) ↔ Acceptable entries) ∧
      (∀ names, (∃ lexicon, ofLists names entries = .ok lexicon) ↔ Acceptable entries) ∧
      (¬ Acceptable entries → ∃ place, FirstFault entries place) ∧
      (∀ place spelling second, FirstFault entries place →
        entries[place]? = some ⟨spelling, second⟩ →
          (spelling = "" → Refused entries (.emptySpelling second)) ∧
          (spelling ≠ "" → ∃ earlier < place, ∃ first,
            entries[earlier]? = some ⟨spelling, first⟩ ∧
              (∀ other < place, spellingAt? entries other = some spelling → other = earlier) ∧
              Refused entries (.duplicateSpelling spelling first second))) ∧
      ∀ fault more, Vocabulary.ofEntries entries = .error fault →
        Refused (entries ++ more) fault := by
  refine ⟨Vocabulary.exists_ofEntries_eq_ok_iff, fun names => exists_ofLists_eq_ok_iff,
    Vocabulary.exists_firstFault, ?_, ?_⟩
  · intro place spelling second hfirst hentry
    have hspelling : spellingAt? entries place = some spelling := by
      rw [spellingAt?, hentry, Option.map_some]
    constructor
    · rintro rfl
      exact refused_of_ofEntries (hfirst.ofEntries_eq_emptySpelling hentry)
    · intro hne
      obtain ⟨earlier, hlt, first, hearlier⟩ := hfirst.exists_earlier hne hspelling
      have hsame : spellingAt? entries earlier = some spelling := by
        rw [spellingAt?, hearlier, Option.map_some]
      refine ⟨earlier, hlt, first, hearlier, ?_, ?_⟩
      · intro other hother
        exact hfirst.place_unique hlt hother hsame
      · apply refused_of_ofEntries
        exact hfirst.ofEntries_eq_duplicateSpelling hne hlt hearlier hentry
  · intro fault more hfault
    exact refused_of_ofEntries (Vocabulary.ofEntries_append_eq_error hfault more)

/-- The duplicate in the middle is reported, with the kind from the head of the list, and the empty
spelling behind it is not. -/
theorem ofLists_first_fault_interleaved :
    FirstFault [⟨"=", .assignmentOperator⟩, ⟨"do", .doKeyword⟩, ⟨"=", .equalityOperator⟩,
        ⟨"", .space⟩] 2 ∧
      Refused [⟨"=", .assignmentOperator⟩, ⟨"do", .doKeyword⟩, ⟨"=", .equalityOperator⟩,
        ⟨"", .space⟩] (.duplicateSpelling "=" .assignmentOperator .equalityOperator) := by
  have hfirst : FirstFault [⟨"=", .assignmentOperator⟩, ⟨"do", .doKeyword⟩,
      ⟨"=", .equalityOperator⟩, ⟨"", .space⟩] 2 := by decide
  obtain ⟨-, -, -, hreported, -⟩ := ofLists_first_fault [⟨"=", .assignmentOperator⟩,
    ⟨"do", .doKeyword⟩, ⟨"=", .equalityOperator⟩, ⟨"", .space⟩]
  obtain ⟨-, hduplicate⟩ := hreported 2 "=" .equalityOperator hfirst rfl
  obtain ⟨earlier, -, first, hearlier, hunique, hrefused⟩ := hduplicate (by decide)
  obtain rfl : 0 = earlier := hunique 0 (by decide) rfl
  cases hearlier
  exact ⟨hfirst, hrefused⟩

end Lexicon

end PhpLexicon
