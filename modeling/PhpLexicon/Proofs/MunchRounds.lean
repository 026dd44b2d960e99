import PhpLexicon.Lexicon.Munch
import PhpLexicon.Proofs.LongestMatch

/-!
# Rounds of the munch loop

A round of the loop takes one token off the start of a text, and a run is a sequence of rounds that
leaves nothing.  The text in front of a round alone decides what it takes.  Hence what holds of
every round holds of every token of a run, at the place where the token starts, and two loops that
agree on every round emit the same tokens.
-/

namespace PhpLexicon

/-- The tokens of a list, each with its place: the first is at `start`, and every other behind the
characters of the one before it. -/
def Token.placedFrom (start : Nat) : List Token → List (Nat × Token)
  | [] => []
  | token :: tokens => (start, token) :: placedFrom (start + token.text.length) tokens

theorem Token.start_le_of_mem_placedFrom {start place : Nat} {token : Token} {tokens : List Token}
    (hmem : (place, token) ∈ placedFrom start tokens) : start ≤ place := by
  induction tokens generalizing start with
  | nil => cases hmem
  | cons head tail ih =>
      rw [placedFrom, List.mem_cons, Prod.mk.injEq] at hmem
      rcases hmem with ⟨heq, -⟩ | hbehind
      · exact Nat.le_of_eq heq.symm
      · exact Nat.le_of_add_right_le (ih hbehind)

namespace Lexicon

variable {lexicon : Lexicon} {lookup : Lookup} {text : List Char}

/-! ## A single round -/

/-- Whether a match is looked up at a text with the given first character. -/
def looksUpAt (lexicon : Lexicon) (lookup : Lookup) (first : Char) : Bool :=
  match lookup with
  | .everywhere => true
  | .atLeads => lexicon.startsOperator first

theorem hit?_cons {first : Char} {rest : List Char} :
    lexicon.hit? lookup (first :: rest) =
      if lexicon.looksUpAt lookup first then lexicon.order.hit? (first :: rest) else none := by
  cases lookup with
  | everywhere => rfl
  | atLeads => rfl

@[simp]
theorem hit?_nil : lexicon.hit? lookup [] = none := by
  cases lookup <;> simp [hit?]

theorem longestBeginning_of_hit? {entry : Entry} (hhit : lexicon.hit? lookup text = some entry) :
    LongestBeginning lexicon.vocabulary.entries text entry :=
  order_hit?_eq_some_iff.mp (order_hit?_of_hit? hhit)

/-- The token that a round takes off the start of a text.  There is none only where the text
ends. -/
def next? (lexicon : Lexicon) (lookup : Lookup) : List Char → Option Token
  | [] => none
  | first :: rest =>
      match lexicon.hit? lookup (first :: rest) with
      | some entry => some (.spelled entry)
      | none => some (.stray first)

theorem next?_eq_none_iff : lexicon.next? lookup text = none ↔ text = [] := by
  cases text with
  | nil => simp [next?]
  | cons first rest =>
      cases hhit : lexicon.hit? lookup (first :: rest) <;> simp [next?, hhit]

theorem next?_eq_spelled_iff {entry : Entry} :
    lexicon.next? lookup text = some (.spelled entry) ↔ lexicon.hit? lookup text = some entry := by
  cases text with
  | nil => simp [next?]
  | cons first rest =>
      cases hhit : lexicon.hit? lookup (first :: rest) <;> simp [next?, hhit]

theorem next?_eq_stray_iff {char : Char} :
    lexicon.next? lookup text = some (.stray char) ↔
      lexicon.hit? lookup text = none ∧ text.head? = some char := by
  cases text with
  | nil => simp [next?]
  | cons first rest =>
      cases hhit : lexicon.hit? lookup (first :: rest) <;> simp [next?, hhit]

/-- A round takes off what the text begins with. -/
theorem begins_of_next? {token : Token} (hnext : lexicon.next? lookup text = some token) :
    token.text.toList <+: text := by
  cases token with
  | spelled entry =>
      exact (longestBeginning_of_hit? (next?_eq_spelled_iff.mp hnext)).begins
  | stray char =>
      obtain ⟨rest, rfl⟩ := List.head?_eq_some_iff.mp (next?_eq_stray_iff.mp hnext).2
      simp [Token.text]

/-- A round takes off something. -/
theorem text_ne_empty_of_next? {token : Token} (hnext : lexicon.next? lookup text = some token) :
    token.text ≠ "" := by
  cases token with
  | spelled entry =>
      have hmem := (longestBeginning_of_hit? (next?_eq_spelled_iff.mp hnext)).mem
      exact lexicon.vocabulary.spelling_ne_empty entry hmem
  | stray char => simp [Token.text]

theorem length_drop_lt_of_next? {token : Token} (hnext : lexicon.next? lookup text = some token) :
    (text.drop token.text.length).length < text.length := by
  have hle := (begins_of_next? hnext).length_le
  have hpos : 0 < token.text.toList.length := by
    rw [List.length_pos_iff, Ne, String.toList_eq_nil_iff]
    exact text_ne_empty_of_next? hnext
  rw [String.length_toList] at hle hpos
  rw [List.length_drop]
  omega

/-- A beginning of the text that still holds the token yields the same token. -/
theorem next?_of_beginning {shorter : List Char} {token : Token} (hbeginning : shorter <+: text)
    (htoken : token.text.toList <+: shorter) (hnext : lexicon.next? lookup text = some token) :
    lexicon.next? lookup shorter = some token := by
  obtain ⟨behind, rfl⟩ := hbeginning
  cases shorter with
  | nil =>
      rw [List.prefix_nil, String.toList_eq_nil_iff] at htoken
      exact absurd htoken (text_ne_empty_of_next? hnext)
  | cons first rest =>
      -- Both texts have the same first character, so both are looked up or neither is.
      have hbeginning : first :: rest <+: first :: (rest ++ behind) := List.prefix_append _ _
      rw [List.cons_append] at hnext
      cases token with
      | spelled entry =>
          rw [next?_eq_spelled_iff, hit?_cons] at hnext ⊢
          by_cases hlooks : lexicon.looksUpAt lookup first
          · rw [if_pos hlooks] at hnext ⊢
            exact order_hit?_eq_some_of_beginning hbeginning htoken hnext
          · rw [if_neg hlooks] at hnext
            cases hnext
      | stray char =>
          rw [next?_eq_stray_iff, hit?_cons] at hnext ⊢
          obtain ⟨hmiss, hhead⟩ := hnext
          by_cases hlooks : lexicon.looksUpAt lookup first
          · rw [if_pos hlooks] at hmiss ⊢
            exact ⟨order_hit?_eq_none_of_beginning hbeginning hmiss, hhead⟩
          · rw [if_neg hlooks]
            exact ⟨rfl, hhead⟩

/-- A token taken by itself is taken again. -/
theorem next?_text {token : Token} (hnext : lexicon.next? lookup text = some token) :
    lexicon.next? lookup token.text.toList = some token :=
  next?_of_beginning (begins_of_next? hnext) (List.prefix_refl _) hnext

/-! ## Runs -/

/-- A run of the loop on a text, with the tokens of its rounds. -/
inductive Cuts (lexicon : Lexicon) (lookup : Lookup) : List Char → List Token → Prop where
  /-- Nothing is left. -/
  | done : Cuts lexicon lookup [] []
  /-- A round takes off a token, and the run goes on behind it. -/
  | round {text : List Char} {token : Token} {tokens : List Token}
      (hnext : lexicon.next? lookup text = some token)
      (hrest : Cuts lexicon lookup (text.drop token.text.length) tokens) :
      Cuts lexicon lookup text (token :: tokens)

theorem munchChars_of_next? {token : Token} (hnext : lexicon.next? lookup text = some token) :
    lexicon.munchChars lookup text =
      token :: lexicon.munchChars lookup (text.drop token.text.length) := by
  cases text with
  | nil => simp [next?] at hnext
  | cons first rest =>
      cases token with
      | spelled entry =>
          have hhit := next?_eq_spelled_iff.mp hnext
          rw [munchChars]
          split
          · rename_i other hother
            rw [hhit, Option.some.injEq] at hother
            rw [hother]
            rfl
          · rename_i hnone
            rw [hhit] at hnone
            cases hnone
      | stray char =>
          obtain ⟨hhit, hhead⟩ := next?_eq_stray_iff.mp hnext
          rw [munchChars]
          split
          · rename_i other hother
            rw [hhit] at hother
            cases hother
          · rw [List.head?_cons, Option.some.injEq] at hhead
            simp [Token.text, hhead]

/-- The loop has a run on every text.  Each round leaves less of the text. -/
theorem cuts_munchChars (text : List Char) :
    lexicon.Cuts lookup text (lexicon.munchChars lookup text) := by
  cases hnext : lexicon.next? lookup text with
  | none =>
      rw [next?_eq_none_iff.mp hnext]
      simpa [munchChars] using Cuts.done
  | some token =>
      rw [munchChars_of_next? hnext]
      exact Cuts.round hnext (cuts_munchChars (text.drop token.text.length))
  termination_by text.length
  decreasing_by exact length_drop_lt_of_next? hnext

/-- A text has one run only. -/
theorem Cuts.eq_munchChars {tokens : List Token} (hcuts : lexicon.Cuts lookup text tokens) :
    tokens = lexicon.munchChars lookup text := by
  induction hcuts with
  | done => simp [munchChars]
  | round hnext hrest ih => rw [munchChars_of_next? hnext, ih]

theorem cuts_iff {tokens : List Token} :
    lexicon.Cuts lookup text tokens ↔ tokens = lexicon.munchChars lookup text := by
  constructor
  · exact Cuts.eq_munchChars
  · intro heq
    rw [heq]
    exact cuts_munchChars text

/-- Loops that agree on every text in which a round can find itself emit the same tokens. -/
theorem munchChars_congr {other : Lexicon} {otherLookup : Lookup}
    (hnext : ∀ rest, rest <:+ text →
      lexicon.next? lookup rest = other.next? otherLookup rest) :
    lexicon.munchChars lookup text = other.munchChars otherLookup text := by
  have hcuts : lexicon.Cuts lookup text (lexicon.munchChars lookup text) := cuts_munchChars text
  generalize lexicon.munchChars lookup text = tokens at hcuts
  apply Cuts.eq_munchChars
  induction hcuts with
  | done => exact Cuts.done
  | round hround hrest ih =>
      apply Cuts.round
      · rw [← hnext _ (List.suffix_refl _), hround]
      · apply ih
        intro rest hsuffix
        exact hnext rest (hsuffix.trans (List.drop_suffix _ _))

namespace Cuts

variable {tokens : List Token}

/-- The tokens of a run put together are the text. -/
theorem flatMap_text (hcuts : lexicon.Cuts lookup text tokens) :
    tokens.flatMap (fun token => token.text.toList) = text := by
  induction hcuts with
  | done => rfl
  | @round text token tokens hnext hrest ih =>
      have hbegins := List.prefix_iff_eq_append.mp (begins_of_next? hnext)
      rw [String.length_toList] at hbegins
      calc
        (token :: tokens).flatMap (fun token => token.text.toList) =
            token.text.toList ++ tokens.flatMap (fun token => token.text.toList) :=
          List.flatMap_cons
        _ = token.text.toList ++ text.drop token.text.length := by rw [ih]
        _ = text := hbegins

/-- A run has at most as many rounds as the text has characters. -/
theorem length_le (hcuts : lexicon.Cuts lookup text tokens) : tokens.length ≤ text.length := by
  induction hcuts with
  | done => simp
  | round hnext hrest ih =>
      have hshorter := length_drop_lt_of_next? hnext
      rw [List.length_cons]
      omega

/-- Every token of a run is what a round takes off the text behind its place. -/
theorem next?_of_mem_placedFrom (hcuts : lexicon.Cuts lookup text tokens) {start place : Nat}
    {token : Token} (hmem : (place, token) ∈ Token.placedFrom start tokens) :
    lexicon.next? lookup (text.drop (place - start)) = some token := by
  induction hcuts generalizing start with
  | done => simp [Token.placedFrom] at hmem
  | @round text head tail hnext hrest ih =>
      rw [Token.placedFrom, List.mem_cons, Prod.mk.injEq] at hmem
      rcases hmem with ⟨rfl, rfl⟩ | hbehind
      · simpa using hnext
      · have hle := Token.start_le_of_mem_placedFrom hbehind
        have hplace : head.text.length + (place - (start + head.text.length)) = place - start := by
          omega
        have hround := ih hbehind
        rwa [List.drop_drop, hplace] at hround

end Cuts

end Lexicon

end PhpLexicon
