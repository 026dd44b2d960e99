import PhpLexicon.Vocabulary.Basic

/-!
# Match orders

A match order arranges the entries of a vocabulary for matching: the first entry whose spelling a
text begins with is the hit.  Two arrangements serve.  In `longestFirst` the longer spelling comes
first, and in `descending` the greater string comes first.  Since a text extended by more characters
is a greater string, a longer spelling precedes its own beginnings in both.
-/

namespace PhpLexicon

/-- Entries in the order in which they are tried against a text. -/
structure MatchOrder where
  /-- The entries, the first to be tried at the head. -/
  entries : List Entry
  /-- No spelling is empty, so every hit takes something off the text. -/
  spelling_ne_empty : ∀ entry ∈ entries, entry.spelling ≠ ""

namespace MatchOrder

/-- The entries of a vocabulary sorted by a comparison. -/
def sortedBy (before : Entry → Entry → Bool) (vocabulary : Vocabulary) : MatchOrder where
  entries := vocabulary.entries.mergeSort before
  spelling_ne_empty := fun entry hentry =>
    vocabulary.spelling_ne_empty entry (List.mem_mergeSort.mp hentry)

/-- The longest spelling first, and of two spellings of one length the greater string. -/
def longestFirst (vocabulary : Vocabulary) : MatchOrder :=
  sortedBy Entry.longestFirst vocabulary

/-- The greatest string first. -/
def descending (vocabulary : Vocabulary) : MatchOrder :=
  sortedBy Entry.greatestFirst vocabulary

@[simp]
theorem mem_longestFirst {vocabulary : Vocabulary} {entry : Entry} :
    entry ∈ (longestFirst vocabulary).entries ↔ entry ∈ vocabulary.entries :=
  List.mem_mergeSort

@[simp]
theorem mem_descending {vocabulary : Vocabulary} {entry : Entry} :
    entry ∈ (descending vocabulary).entries ↔ entry ∈ vocabulary.entries :=
  List.mem_mergeSort

/-- The first entry with which the given characters begin. -/
def hit? (order : MatchOrder) (text : List Char) : Option Entry :=
  order.entries.find? (fun entry => entry.begins text)

/-- The first entry with which a text begins. -/
def longestMatch? (order : MatchOrder) (text : String) : Option Entry :=
  order.hit? text.toList

/-- The place of a spelling in the order, counted from zero. -/
def position? (order : MatchOrder) (spelling : String) : Option Nat :=
  order.entries.findIdx? (fun entry => entry.spelling == spelling)

/-- The entries from one place to just before another, as far as there are any. -/
def slice (order : MatchOrder) (start stop : Nat) : List Entry :=
  (order.entries.take stop).drop start

/-- The number of entries. -/
def size (order : MatchOrder) : Nat :=
  order.entries.length

/-- Whether there are no entries. -/
def isEmpty (order : MatchOrder) : Bool :=
  order.entries.isEmpty

theorem mem_of_hit? {order : MatchOrder} {text : List Char} {entry : Entry}
    (hhit : order.hit? text = some entry) : entry ∈ order.entries :=
  List.mem_of_find?_eq_some hhit

theorem begins_of_hit? {order : MatchOrder} {text : List Char} {entry : Entry}
    (hhit : order.hit? text = some entry) : entry.begins text = true := by
  have hfound := (List.find?_eq_some_iff_append.mp hhit).1
  exact hfound

/-- What is left of a text behind a hit is shorter than the text. -/
theorem length_drop_lt_of_hit? {order : MatchOrder} {text : List Char} {entry : Entry}
    (hhit : order.hit? text = some entry) :
    (text.drop entry.spelling.length).length < text.length := by
  have hle := (Entry.begins_iff.mp (begins_of_hit? hhit)).length_le
  have hpos : 0 < entry.spelling.toList.length := by
    rw [List.length_pos_iff]
    intro hnil
    exact order.spelling_ne_empty entry (mem_of_hit? hhit) (String.toList_eq_nil_iff.mp hnil)
  rw [String.length_toList] at hle hpos
  rw [List.length_drop]
  omega

end MatchOrder

end PhpLexicon
