import PhpLexicon.Vocabulary.Basic
import PhpLexicon.Vocabulary.Error

/-!
# Registration of entries

Entries are registered one after another, and the first that is empty or repeats a spelling stops
the registration.  `Vocabulary.ofEntries` therefore accepts exactly the entries of vocabularies, in
any order, and keeps the order that it finds.
-/

namespace PhpLexicon

namespace Vocabulary

/-- The vocabulary with one more entry behind the others. -/
def extend (vocabulary : Vocabulary) (entry : Entry) (hempty : entry.spelling ≠ "")
    (hkind : vocabulary.kindOf? entry.spelling = none) : Vocabulary where
  entries := vocabulary.entries ++ [entry]
  spelling_ne_empty := by
    intro other hother
    rcases List.mem_append.mp hother with hold | hnew
    · exact vocabulary.spelling_ne_empty other hold
    · rwa [List.mem_singleton.mp hnew]
  nodup_spellings := by
    have hfresh := kindOf?_eq_none_iff.mp hkind
    rw [List.map_append, List.nodup_append]
    refine ⟨vocabulary.nodup_spellings, by simp, ?_⟩
    intro left hleft right hright heq
    apply hfresh
    rw [← List.mem_singleton.mp hright, ← heq]
    exact hleft

/-- Registers one more entry behind the others.  An empty spelling is refused before it is looked
up. -/
def insert (vocabulary : Vocabulary) (entry : Entry) : Except VocabularyError Vocabulary :=
  if hempty : entry.spelling = "" then
    .error (.emptySpelling entry.kind)
  else
    match hkind : vocabulary.kindOf? entry.spelling with
    | some first => .error (.duplicateSpelling entry.spelling first entry.kind)
    | none => .ok (vocabulary.extend entry hempty hkind)

/-- Registers the entries of a list from left to right, and stops at the first that is refused. -/
def ofEntries (entries : List Entry) : Except VocabularyError Vocabulary :=
  entries.foldlM insert empty

theorem entries_insert {vocabulary extended : Vocabulary} {entry : Entry}
    (hinsert : vocabulary.insert entry = .ok extended) :
    extended.entries = vocabulary.entries ++ [entry] := by
  unfold insert at hinsert
  split at hinsert
  · cases hinsert
  · split at hinsert
    · cases hinsert
    · cases hinsert
      rfl

/-- A list that is accepted is kept as it is. -/
theorem entries_ofEntries {entries : List Entry} {vocabulary : Vocabulary}
    (hbuild : ofEntries entries = .ok vocabulary) : vocabulary.entries = entries := by
  suffices hfold : ∀ (pending : List Entry) (start : Vocabulary),
      pending.foldlM insert start = .ok vocabulary →
        vocabulary.entries = start.entries ++ pending from
    hfold entries empty hbuild
  intro pending
  induction pending with
  | nil =>
      intro start hstart
      cases hstart
      simp
  | cons entry rest ih =>
      intro start hstart
      rw [List.foldlM_cons] at hstart
      cases hinsert : start.insert entry with
      | error fault =>
          rw [hinsert] at hstart
          cases hstart
      | ok next =>
          rw [hinsert] at hstart
          rw [ih next hstart, entries_insert hinsert, List.append_assoc]
          rfl

theorem insert_eq_ok {vocabulary : Vocabulary} {entry : Entry} (hempty : entry.spelling ≠ "")
    (hkind : vocabulary.kindOf? entry.spelling = none) :
    vocabulary.insert entry = .ok (vocabulary.extend entry hempty hkind) := by
  rw [insert, dif_neg hempty]
  split
  · rename_i hfound
    rw [hkind] at hfound
    cases hfound
  · rfl

theorem insert_eq_emptySpelling (vocabulary : Vocabulary) {entry : Entry}
    (hempty : entry.spelling = "") :
    vocabulary.insert entry = .error (.emptySpelling entry.kind) := by
  rw [insert, dif_pos hempty]

theorem insert_eq_duplicateSpelling {vocabulary : Vocabulary} {entry : Entry} {first : Kind}
    (hempty : entry.spelling ≠ "") (hkind : vocabulary.kindOf? entry.spelling = some first) :
    vocabulary.insert entry = .error (.duplicateSpelling entry.spelling first entry.kind) := by
  rw [insert, dif_neg hempty]
  split
  · rename_i other hother
    rw [hkind, Option.some.injEq] at hother
    rw [hother]
  · rename_i hnone
    rw [hkind] at hnone
    cases hnone

theorem ofEntries_append (earlier later : List Entry) :
    ofEntries (earlier ++ later) =
      ofEntries earlier >>= fun vocabulary => later.foldlM insert vocabulary :=
  List.foldlM_append

/-- An entry that is refused behind accepted entries stops the registration. -/
theorem ofEntries_eq_error_of_insert {earlier later : List Entry} {entry : Entry}
    {vocabulary : Vocabulary} {fault : VocabularyError}
    (hbuild : ofEntries earlier = .ok vocabulary)
    (hinsert : vocabulary.insert entry = .error fault) :
    ofEntries (earlier ++ entry :: later) = .error fault := by
  calc
    ofEntries (earlier ++ entry :: later) = (entry :: later).foldlM insert vocabulary := by
      rw [ofEntries_append, hbuild]
      rfl
    _ = .error fault := by
      rw [List.foldlM_cons, hinsert]
      rfl

/-- Nothing that follows changes a fault. -/
theorem ofEntries_append_eq_error {entries : List Entry} {fault : VocabularyError}
    (hfault : ofEntries entries = .error fault) (more : List Entry) :
    ofEntries (entries ++ more) = .error fault := by
  rw [ofEntries_append, hfault]
  rfl

/-- The entries of a vocabulary are accepted, and give the vocabulary again. -/
@[simp]
theorem ofEntries_entries (vocabulary : Vocabulary) :
    ofEntries vocabulary.entries = .ok vocabulary := by
  suffices hfold : ∀ (pending : List Entry) (start : Vocabulary),
      start.entries ++ pending = vocabulary.entries →
        pending.foldlM insert start = .ok vocabulary from
    hfold vocabulary.entries empty rfl
  intro pending
  induction pending with
  | nil =>
      intro start hsplit
      rw [List.append_nil] at hsplit
      rw [Vocabulary.ext hsplit]
      rfl
  | cons entry rest ih =>
      intro start hsplit
      have hmem : entry ∈ vocabulary.entries := by simp [← hsplit]
      have hnodup := vocabulary.nodup_spellings
      rw [← hsplit, List.map_append, List.map_cons] at hnodup
      have hfresh : entry.spelling ∉ start.entries.map Entry.spelling := fun hold =>
        (List.nodup_append.mp hnodup).2.2 _ hold _ List.mem_cons_self rfl
      have hinsert := insert_eq_ok (vocabulary.spelling_ne_empty entry hmem)
        (kindOf?_eq_none_iff.mpr hfresh)
      rw [List.foldlM_cons, hinsert]
      apply ih
      rw [entries_insert hinsert, List.append_assoc]
      exact hsplit

end Vocabulary

end PhpLexicon
