import PhpLexicon.Lexicon.Basic

/-!
# Maximal munch

A text is cut into tokens from left to right.  Where an entry matches, the longest that does becomes
a token; elsewhere the next character stays alone.  The texts of the tokens put together are the
whole text.
-/

namespace PhpLexicon

/-- A piece of a text that was cut by a lexicon. -/
inductive Token where
  /-- A registered spelling. -/
  | spelled (entry : Entry)
  /-- A single character at which no spelling was found. -/
  | stray (char : Char)
  deriving DecidableEq

/-- The characters of a token. -/
def Token.text : Token → String
  | .spelled entry => entry.spelling
  | .stray char => String.singleton char

/-- The kind of a token, if it is a registered spelling. -/
def Token.kind? : Token → Option Kind
  | .spelled entry => some entry.kind
  | .stray _ => none

/-- Where in a text a match is looked up. -/
inductive Lookup where
  /-- At every character. -/
  | everywhere
  /-- Only at a character with which an operator can begin. -/
  | atLeads
  deriving DecidableEq

namespace Lexicon

/-- The longest entry at the start of a text, if a match is looked up there. -/
def hit? (lexicon : Lexicon) (lookup : Lookup) (text : List Char) : Option Entry :=
  match lookup, text with
  | .everywhere, _ => lexicon.order.hit? text
  | .atLeads, [] => none
  | .atLeads, first :: _ =>
      if lexicon.startsOperator first then lexicon.order.hit? text else none

theorem order_hit?_of_hit? {lexicon : Lexicon} {lookup : Lookup} {text : List Char}
    {entry : Entry} (hhit : lexicon.hit? lookup text = some entry) :
    lexicon.order.hit? text = some entry := by
  unfold hit? at hhit
  split at hhit
  · exact hhit
  · cases hhit
  · split at hhit
    · exact hhit
    · cases hhit

/-- The tokens of a list of characters. -/
def munchChars (lexicon : Lexicon) (lookup : Lookup) : List Char → List Token
  | [] => []
  | first :: rest =>
      match _ : lexicon.hit? lookup (first :: rest) with
      | some entry =>
          .spelled entry ::
            lexicon.munchChars lookup ((first :: rest).drop entry.spelling.length)
      | none => .stray first :: lexicon.munchChars lookup rest
  termination_by text => text.length
  decreasing_by
    · exact MatchOrder.length_drop_lt_of_hit? (order_hit?_of_hit? (by assumption))
    · simp

/-- The tokens of a text. -/
def munch (lexicon : Lexicon) (lookup : Lookup) (text : String) : List Token :=
  lexicon.munchChars lookup text.toList

end Lexicon

end PhpLexicon
