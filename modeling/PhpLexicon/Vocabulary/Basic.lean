import PhpLexicon.Vocabulary.Entry

/-!
# Vocabularies

A vocabulary is a list of entries in which no spelling is empty and none occurs twice, so it gives
every spelling at most one kind.  It can be asked from both sides: for the kind of a spelling, and
for the spellings of a kind.
-/

namespace PhpLexicon

/-- The registered spellings and the kinds that they stand for. -/
@[ext]
structure Vocabulary where
  /-- The entries in the order in which they were registered. -/
  entries : List Entry
  /-- No spelling is empty. -/
  spelling_ne_empty : ∀ entry ∈ entries, entry.spelling ≠ ""
  /-- No spelling occurs twice. -/
  nodup_spellings : (entries.map Entry.spelling).Nodup

namespace Vocabulary

/-- The vocabulary without entries. -/
def empty : Vocabulary where
  entries := []
  spelling_ne_empty := by simp
  nodup_spellings := by simp

/-- The kind that a spelling stands for, if the spelling is registered. -/
def kindOf? (vocabulary : Vocabulary) (spelling : String) : Option Kind :=
  (vocabulary.entries.find? (fun entry => entry.spelling == spelling)).map Entry.kind

theorem kindOf?_eq_none_iff {vocabulary : Vocabulary} {spelling : String} :
    vocabulary.kindOf? spelling = none ↔ spelling ∉ vocabulary.entries.map Entry.spelling := by
  simp [kindOf?]

/-- The number of entries. -/
def size (vocabulary : Vocabulary) : Nat :=
  vocabulary.entries.length

/-- Whether there are no entries. -/
def isEmpty (vocabulary : Vocabulary) : Bool :=
  vocabulary.entries.isEmpty

/-- The class of a registered spelling. -/
def classOf? (vocabulary : Vocabulary) (spelling : String) : Option SpellingClass :=
  if (vocabulary.kindOf? spelling).isSome then SpellingClass.of? spelling else none

/-- All entries in ascending order of their spellings. -/
def ascending (vocabulary : Vocabulary) : List Entry :=
  vocabulary.entries.mergeSort (fun left right => decide (left.spelling ≤ right.spelling))

/-- The spellings of one kind in ascending order. -/
def spellingsOf (vocabulary : Vocabulary) (kind : Kind) : List String :=
  ((vocabulary.entries.filter (fun entry => entry.kind == kind)).map Entry.spelling).mergeSort
    (fun left right => decide (left ≤ right))

end Vocabulary

end PhpLexicon
