import PhpLexicon.Kind.NameTable
import PhpLexicon.Vocabulary.LeadSet
import PhpLexicon.Vocabulary.MatchOrder

/-!
# Lexicons

A lexicon answers what a scanner and its diagnostics ask: which kind a spelling has, whether a
character can begin an operator, the longest spelling at the start of a text, and the name under
which a kind is shown.  It stores the match order and the leads, so that they are worked out once;
both are determined by the vocabulary, and the type says so.
-/

namespace PhpLexicon

/-- A vocabulary and a name table, with what matching needs at hand. -/
structure Lexicon where
  /-- The display names. -/
  names : NameTable
  /-- The spellings and their kinds. -/
  vocabulary : Vocabulary
  /-- The entries in the order of matching. -/
  order : MatchOrder
  /-- The characters with which an operator can begin. -/
  leads : LeadSet
  /-- The order of matching is that of the vocabulary. -/
  order_eq : order = MatchOrder.longestFirst vocabulary
  /-- The leads are those of the vocabulary. -/
  leads_eq : leads = LeadSet.ofVocabulary vocabulary

namespace Lexicon

/-- The lexicon of a name table and a vocabulary. -/
def of (names : NameTable) (vocabulary : Vocabulary) : Lexicon where
  names := names
  vocabulary := vocabulary
  order := MatchOrder.longestFirst vocabulary
  leads := LeadSet.ofVocabulary vocabulary
  order_eq := rfl
  leads_eq := rfl

/-- The kind of a spelling, if the spelling is registered. -/
def kindOf? (lexicon : Lexicon) (spelling : String) : Option Kind :=
  lexicon.vocabulary.kindOf? spelling

/-- The class of a registered spelling. -/
def classOf? (lexicon : Lexicon) (spelling : String) : Option SpellingClass :=
  lexicon.vocabulary.classOf? spelling

/-- Whether a character can begin an operator. -/
def startsOperator (lexicon : Lexicon) (char : Char) : Bool :=
  lexicon.leads.contains char

/-- The longest entry with which a text begins. -/
def longestMatch? (lexicon : Lexicon) (text : String) : Option Entry :=
  lexicon.order.longestMatch? text

/-- The text by which a kind is shown. -/
def displayName (lexicon : Lexicon) (kind : Kind) : String :=
  lexicon.names.display kind

end Lexicon

end PhpLexicon
