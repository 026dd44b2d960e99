import PhpLexicon.Vocabulary.Basic

/-!
# Operator leads

The characters with which an operator of a vocabulary can begin.  A scanner asks for them before it
asks for a match, and a character that is no lead ends the question there.
-/

namespace PhpLexicon

/-- The character with which an operator begins.  A word gives none. -/
def Entry.lead? (entry : Entry) : Option Char :=
  match SpellingClass.of? entry.spelling with
  | some .symbol => entry.spelling.toList.head?
  | _ => none

/-- Puts a character at its place among ascending characters, unless it is there. -/
def insertAscending (char : Char) : List Char → List Char
  | [] => [char]
  | head :: tail =>
      if char < head then char :: head :: tail
      else if char = head then head :: tail
      else head :: insertAscending char tail

@[simp]
theorem mem_insertAscending {char other : Char} {chars : List Char} :
    other ∈ insertAscending char chars ↔ other = char ∨ other ∈ chars := by
  induction chars with
  | nil => simp [insertAscending]
  | cons head tail ih =>
      simp only [insertAscending]
      split
      · simp
      · split
        · rename_i heq
          simp [heq]
        · simp only [List.mem_cons, ih]
          exact or_left_comm

theorem pairwise_insertAscending {char : Char} {chars : List Char}
    (hchars : chars.Pairwise (· < ·)) : (insertAscending char chars).Pairwise (· < ·) := by
  induction chars with
  | nil => simp [insertAscending]
  | cons head tail ih =>
      rw [List.pairwise_cons] at hchars
      simp only [insertAscending]
      split
      · rename_i hlt
        rw [List.pairwise_cons]
        refine ⟨?_, List.pairwise_cons.mpr hchars⟩
        intro other hother
        rcases List.mem_cons.mp hother with heq | htail
        · rwa [heq]
        · exact Char.lt_trans hlt (hchars.1 other htail)
      · split
        · exact List.pairwise_cons.mpr hchars
        · rename_i hnlt hne
          rw [List.pairwise_cons]
          refine ⟨?_, ih hchars.2⟩
          intro other hother
          rcases mem_insertAscending.mp hother with heq | htail
          · rw [heq]
            exact Decidable.byContradiction fun hle =>
              hne (Char.le_antisymm (Char.not_lt.mp hle) (Char.not_lt.mp hnlt))
          · exact hchars.1 other htail

/-- A finite set of characters in ascending order. -/
structure LeadSet where
  /-- The characters, each once. -/
  chars : List Char
  /-- Each character is less than those behind it. -/
  ascending : chars.Pairwise (· < ·)

namespace LeadSet

/-- The set without characters. -/
def empty : LeadSet where
  chars := []
  ascending := List.Pairwise.nil

/-- Adds a character to the set. -/
def insert (leads : LeadSet) (char : Char) : LeadSet where
  chars := insertAscending char leads.chars
  ascending := pairwise_insertAscending leads.ascending

@[simp]
theorem mem_chars_insert {leads : LeadSet} {char other : Char} :
    other ∈ (leads.insert char).chars ↔ other = char ∨ other ∈ leads.chars :=
  mem_insertAscending

/-- The characters with which the operators of a vocabulary begin. -/
def ofVocabulary (vocabulary : Vocabulary) : LeadSet :=
  (vocabulary.entries.filterMap Entry.lead?).foldl insert empty

theorem mem_chars_foldl_insert {leads : LeadSet} {chars : List Char} {char : Char} :
    char ∈ (chars.foldl insert leads).chars ↔ char ∈ chars ∨ char ∈ leads.chars := by
  induction chars generalizing leads with
  | nil => simp
  | cons head tail ih =>
      rw [List.foldl_cons, ih, mem_chars_insert, List.mem_cons]
      exact or_left_comm.trans or_assoc.symm

/-- A character is a lead just when an operator of the vocabulary begins with it. -/
theorem mem_chars_ofVocabulary {vocabulary : Vocabulary} {char : Char} :
    char ∈ (ofVocabulary vocabulary).chars ↔
      ∃ entry ∈ vocabulary.entries, entry.lead? = some char := by
  rw [ofVocabulary, mem_chars_foldl_insert, List.mem_filterMap]
  simp [empty]

/-- Whether a character belongs to the set. -/
def contains (leads : LeadSet) (char : Char) : Bool :=
  leads.chars.contains char

@[simp]
theorem contains_iff {leads : LeadSet} {char : Char} :
    leads.contains char = true ↔ char ∈ leads.chars :=
  List.contains_iff_mem

/-- The number of characters in the set. -/
def size (leads : LeadSet) : Nat :=
  leads.chars.length

/-- Whether the set has no characters. -/
def isEmpty (leads : LeadSet) : Bool :=
  leads.chars.isEmpty

end LeadSet

end PhpLexicon
