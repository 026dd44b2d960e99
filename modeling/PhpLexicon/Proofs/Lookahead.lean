import PhpLexicon.Proofs.MunchRounds

/-!
# Bounded lookahead

A match reads no further than the longest registered spelling reaches.  Text that is added behind
another can therefore only replace a match by one that reaches into the addition, and a round that
starts far enough in front of the addition does not notice it.  A text that arrives in pieces can be
cut as it arrives: the tokens that start there are settled.
-/

namespace PhpLexicon

/-- The length of the longest spelling among entries, in characters.  Without entries it is zero. -/
def Entry.longestLength (entries : List Entry) : Nat :=
  (entries.map fun entry => entry.spelling.length).max?.getD 0

theorem Entry.length_le_longestLength {entries : List Entry} {entry : Entry}
    (hentry : entry ∈ entries) : entry.spelling.length ≤ longestLength entries :=
  List.le_max?_getD_of_mem (List.mem_map_of_mem hentry)

namespace Token

/-- The tokens of a list that start at least `window` characters in front of `stop`, each with its
place.  The first token of the list is at `start`. -/
def settled (window stop start : Nat) (tokens : List Token) : List (Nat × Token) :=
  (placedFrom start tokens).filter fun placed => decide (placed.1 + window ≤ stop)

variable {window stop start : Nat} {token : Token} {tokens : List Token}

theorem settled_cons (hfits : start + window ≤ stop) :
    settled window stop start (token :: tokens) =
      (start, token) :: settled window stop (start + token.text.length) tokens := by
  rw [settled, placedFrom, List.filter_cons_of_pos (by simpa using hfits), settled]

/-- Where the first token starts too late, all do. -/
theorem settled_eq_nil (hlate : stop < start + window) :
    settled window stop start tokens = [] := by
  rw [settled, List.filter_eq_nil_iff]
  rintro ⟨place, token⟩ hmem
  have hle := start_le_of_mem_placedFrom hmem
  rw [decide_eq_true_iff]
  omega

end Token

namespace Lexicon

variable {lexicon : Lexicon} {lookup : Lookup} {text : List Char}

/-- The number of characters that suffice for a round: as many as the longest spelling has, and one
for a character that stays alone. -/
def window (lexicon : Lexicon) : Nat :=
  max (Entry.longestLength lexicon.vocabulary.entries) 1

theorem length_text_le_window {token : Token} (hnext : lexicon.next? lookup text = some token) :
    token.text.length ≤ lexicon.window := by
  cases token with
  | spelled entry =>
      have hmem := (longestBeginning_of_hit? (next?_eq_spelled_iff.mp hnext)).mem
      exact Nat.le_trans (Entry.length_le_longestLength hmem) (Nat.le_max_left _ _)
  | stray char =>
      rw [Token.text, String.length_singleton]
      exact Nat.le_max_right _ _

/-- More text changes a hit only into one that reaches into it. -/
theorem order_hit?_append (text behind : List Char) :
    lexicon.order.hit? (text ++ behind) = lexicon.order.hit? text ∨
      ∃ entry, lexicon.order.hit? (text ++ behind) = some entry ∧
        text.length < entry.spelling.length := by
  have hbeginning : text <+: text ++ behind := List.prefix_append text behind
  cases hhit : lexicon.order.hit? (text ++ behind) with
  | none =>
      left
      rw [order_hit?_eq_none_of_beginning hbeginning hhit]
  | some entry =>
      by_cases hinside : entry.spelling.toList.length ≤ text.length
      · left
        have hbegins : entry.spelling.toList <+: text :=
          List.prefix_of_prefix_length_le (order_hit?_eq_some_iff.mp hhit).begins hbeginning hinside
        rw [order_hit?_eq_some_of_beginning hbeginning hbegins hhit]
      · right
        rw [String.length_toList] at hinside
        exact ⟨entry, rfl, Nat.lt_of_not_le hinside⟩

/-- A round that has its window in front of it does not notice what comes behind. -/
theorem next?_append (hwindow : lexicon.window ≤ text.length) (behind : List Char) :
    lexicon.next? lookup (text ++ behind) = lexicon.next? lookup text := by
  have hbeginning : text <+: text ++ behind := List.prefix_append text behind
  cases hnext : lexicon.next? lookup (text ++ behind) with
  | none =>
      rw [next?_eq_none_iff, List.append_eq_nil_iff] at hnext
      rw [hnext.1]
      rfl
  | some token =>
      have hinside : token.text.toList.length ≤ text.length := by
        rw [String.length_toList]
        exact Nat.le_trans (length_text_le_window hnext) hwindow
      have htoken : token.text.toList <+: text :=
        List.prefix_of_prefix_length_le (begins_of_next? hnext) hbeginning hinside
      rw [next?_of_beginning hbeginning htoken hnext]

/-- The runs on a text and on its extension stay together as long as a round has its window in
front of it. -/
theorem Cuts.settled_append {tokens : List Token} (hcuts : lexicon.Cuts lookup text tokens)
    (behind : List Char) (start : Nat) :
    Token.settled lexicon.window (start + text.length) start
        (lexicon.munchChars lookup (text ++ behind)) =
      Token.settled lexicon.window (start + text.length) start tokens := by
  have hpos : 0 < lexicon.window := Nat.lt_of_lt_of_le Nat.one_pos (Nat.le_max_right _ _)
  -- Along the run on the shorter text.  While the window of a round fits into that text, both loops
  -- take the same token and move on by its length; behind the first round whose window does not
  -- fit, nothing is settled on either side.
  induction hcuts generalizing start with
  | done =>
      have hlate : start + ([] : List Char).length < start + lexicon.window :=
        Nat.add_lt_add_left hpos start
      rw [Token.settled_eq_nil hlate, Token.settled_eq_nil hlate]
  | @round text token tokens hnext hrest ih =>
      by_cases hwindow : lexicon.window ≤ text.length
      · have hround : lexicon.next? lookup (text ++ behind) = some token := by
          rw [next?_append hwindow, hnext]
        have hinside : token.text.length ≤ text.length :=
          Nat.le_trans (length_text_le_window hnext) hwindow
        have hdrop : (text ++ behind).drop token.text.length =
            text.drop token.text.length ++ behind :=
          List.drop_append_of_le_length hinside
        have hstop : start + token.text.length + (text.drop token.text.length).length =
            start + text.length := by
          rw [List.length_drop]
          omega
        have hfits : start + lexicon.window ≤ start + text.length :=
          Nat.add_le_add_left hwindow start
        have htail := ih (start + token.text.length)
        rw [hstop] at htail
        calc
          Token.settled lexicon.window (start + text.length) start
                (lexicon.munchChars lookup (text ++ behind)) =
              Token.settled lexicon.window (start + text.length) start
                (token :: lexicon.munchChars lookup (text.drop token.text.length ++ behind)) := by
            rw [munchChars_of_next? hround, hdrop]
          _ = (start, token) ::
                Token.settled lexicon.window (start + text.length) (start + token.text.length)
                  (lexicon.munchChars lookup (text.drop token.text.length ++ behind)) :=
            Token.settled_cons hfits
          _ = (start, token) ::
                Token.settled lexicon.window (start + text.length) (start + token.text.length)
                  tokens := by
            rw [htail]
          _ = Token.settled lexicon.window (start + text.length) start (token :: tokens) :=
            (Token.settled_cons hfits).symm
      · have hlate : start + text.length < start + lexicon.window := by omega
        rw [Token.settled_eq_nil hlate, Token.settled_eq_nil hlate]

/-- The lexicon of any accepted list looks ahead no further than its longest spelling.  More text
leaves the longest match as it is, or makes it longer than all of the text before; and the loop,
guarded or not, emits the same tokens at the same places on a text and on its extension, as far as
they start at least that many characters, or one, in front of the end of the text. -/
theorem settled_munch_append {names : List (Kind × String)} {entries : List Entry}
    (hbuild : ofLists names entries = .ok lexicon) (text more : String) :
    (lexicon.longestMatch? (text ++ more) = lexicon.longestMatch? text ∨
        ∃ entry, lexicon.longestMatch? (text ++ more) = some entry ∧
          text.length < entry.spelling.length) ∧
      ∀ lookup : Lookup,
        Token.settled (max (Entry.longestLength entries) 1) text.length 0
            (lexicon.munch lookup (text ++ more)) =
          Token.settled (max (Entry.longestLength entries) 1) text.length 0
            (lexicon.munch lookup text) := by
  rw [← entries_ofLists hbuild, ← String.length_toList]
  constructor
  · rw [longestMatch?, longestMatch?, MatchOrder.longestMatch?, MatchOrder.longestMatch?,
      String.toList_append]
    exact order_hit?_append text.toList more.toList
  · intro lookup
    have hcuts : lexicon.Cuts lookup text.toList (lexicon.munchChars lookup text.toList) :=
      cuts_munchChars text.toList
    have hsettled := hcuts.settled_append more.toList 0
    rw [Nat.zero_add] at hsettled
    rw [munch, munch, String.toList_append]
    exact hsettled

/-- One more character makes the match at the exclamation mark longer, and the tokens up to that
operator are settled once twelve characters follow its start. -/
theorem settled_munch_append_builtin :
    ofLists NameTable.builtinNames Vocabulary.builtinEntries = .ok builtin ∧
      Entry.longestLength Vocabulary.builtinEntries = 12 ∧
      (∃ entry, builtin.longestMatch? ("!=" ++ "=") = some entry ∧
        "!=".length < entry.spelling.length) ∧
      Token.settled 12 "if($a!==$b)return".length 0
          (builtin.munch .everywhere ("if($a!==$b)return" ++ " $a;")) =
        Token.settled 12 "if($a!==$b)return".length 0
          (builtin.munch .everywhere "if($a!==$b)return") := by
  have hlength : Entry.longestLength Vocabulary.builtinEntries = 12 := by decide +kernel
  have hshort : builtin.longestMatch? "!=" = some ⟨"!=", .notEqualityOperator⟩ :=
    order_hit?_eq_some_iff.mpr (by decide +kernel)
  have hlong : builtin.longestMatch? ("!=" ++ "=") = some ⟨"!==", .strongNotEqualityOperator⟩ :=
    order_hit?_eq_some_iff.mpr (by decide +kernel)
  obtain ⟨hmatch, -⟩ := settled_munch_append ofLists_builtin "!=" "="
  obtain ⟨-, hmunch⟩ := settled_munch_append ofLists_builtin "if($a!==$b)return" " $a;"
  rw [hlength] at hmunch
  refine ⟨ofLists_builtin, hlength, hmatch.resolve_left ?_, hmunch .everywhere⟩
  rw [hlong, hshort]
  decide

end Lexicon

end PhpLexicon
