import PhpLexicon.CharSet.Symbols
import PhpLexicon.Kind.Basic

/-!
# Entries

An entry says that a spelling stands for a token kind.  A spelling is a word or a symbol, and its
first character decides which.  Entries can be compared in two ways, each a total order on entries
with different spellings: by length first, or by the order of strings alone.  Strings are ordered by
the code points of their characters.
-/

namespace PhpLexicon

/-- What a spelling looks like at its first character. -/
inductive SpellingClass where
  /-- The spelling begins with a letter, a digit or another character that is no symbol. -/
  | word
  /-- The spelling begins with punctuation or a symbol. -/
  | symbol
  deriving DecidableEq

/-- The class of a spelling.  The empty text has none. -/
def SpellingClass.of? (spelling : String) : Option SpellingClass :=
  spelling.toList.head?.map fun first =>
    if first ∈ CharSet.symbols then .symbol else .word

/-- A fixed spelling together with the kind of token that it stands for. -/
structure Entry where
  spelling : String
  kind : Kind
  deriving DecidableEq

namespace Entry

/-- Whether a text begins with the spelling of the entry. -/
def begins (entry : Entry) (text : List Char) : Bool :=
  entry.spelling.toList.isPrefixOf text

@[simp]
theorem begins_iff {entry : Entry} {text : List Char} :
    entry.begins text = true ↔ entry.spelling.toList <+: text :=
  List.isPrefixOf_iff_prefix

/-- The order in which the longer spelling comes first, counted in characters, and of two spellings
of one length the greater. -/
def longestFirst (left right : Entry) : Bool :=
  decide (right.spelling.length < left.spelling.length) ||
    (decide (left.spelling.length = right.spelling.length) &&
      decide (right.spelling ≤ left.spelling))

/-- The order in which the greater spelling comes first. -/
def greatestFirst (left right : Entry) : Bool :=
  decide (right.spelling ≤ left.spelling)

end Entry

end PhpLexicon
