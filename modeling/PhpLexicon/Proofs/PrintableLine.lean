import PhpLexicon.Proofs.ClosingQuote
import PhpLexicon.Proofs.Messages

/-!
# Messages are printable lines

A message is one line whose every character can be seen, whatever spelling it reports.  What is not
printable in the spelling is escaped, and an escape is made of letters, digits and marks that are
printable themselves; the words around the spelling and the tags are, too.  The spelling cannot end
its quotes early either, so it does not pass for words of the message.
-/

namespace PhpLexicon

/-- The plain space, and the letters, digits and marks of ASCII. -/
theorem isPrintable_of_ascii {char : Char} (hlow : 0x20 ≤ char.toNat) (hhigh : char.toNat < 0x7F) :
    isPrintable char = true := by
  have hall : ∀ point < 0x7F, 0x20 ≤ point → isPrintable (Char.ofNat point) = true := by
    decide +kernel
  have hchar := hall char.toNat hhigh hlow
  rwa [Char.ofNat_toNat] at hchar

theorem isPrintable_of_isAlphanum {char : Char} (hchar : char.isAlphanum = true) :
    isPrintable char = true := by
  delta Char.isAlphanum Char.isAlpha Char.isUpper Char.isLower Char.isDigit at hchar
  simp only [Bool.or_eq_true, Bool.and_eq_true, decide_eq_true_eq, ge_iff_le,
    UInt32.le_iff_toNat_le] at hchar
  -- The ranges of capitals, of small letters and of digits.
  change ((65 ≤ char.toNat ∧ char.toNat ≤ 90) ∨ (97 ≤ char.toNat ∧ char.toNat ≤ 122)) ∨
    (48 ≤ char.toNat ∧ char.toNat ≤ 57) at hchar
  exact isPrintable_of_ascii (by omega) (by omega)

/-! ## Escapes -/

theorem isPrintable_digitChar : ∀ digit < 16, isPrintable (Nat.digitChar digit) = true := by
  decide +kernel

theorem isPrintable_of_mem_letteredEscapes :
    ∀ escape ∈ letteredEscapes, isPrintable escape.2 = true := by
  decide +kernel

/-- An escape is printable, also that of a character which is not. -/
theorem Escape.isPrintable_of_mem {char other : Char} {word : List Char}
    (hescape : Escape char word) (hmem : other ∈ word) : isPrintable other = true := by
  cases hescape with
  | plain _ _ hprintable => rwa [List.mem_singleton.mp hmem]
  | @lettered letter hletter =>
      rw [List.mem_pair] at hmem
      rcases hmem with rfl | rfl
      · exact isPrintable_of_ascii (by decide) (by decide)
      · exact isPrintable_of_mem_letteredEscapes (char, _) hletter
  | numbered =>
      simp only [List.mem_cons, List.mem_append, List.not_mem_nil, or_false] at hmem
      rcases hmem with rfl | rfl | rfl | hdigits | rfl
      · exact isPrintable_of_ascii (by decide) (by decide)
      · exact isPrintable_of_ascii (by decide) (by decide)
      · exact isPrintable_of_ascii (by decide) (by decide)
      · obtain ⟨digit, hdigit, rfl⟩ := exists_digit_of_mem_toDigits hdigits
        exact isPrintable_digitChar digit hdigit
      · exact isPrintable_of_ascii (by decide) (by decide)

theorem isPrintable_of_mem_quote {char : Char} {text : String} (hmem : char ∈ (quote text).toList) :
    isPrintable char = true := by
  simp only [quote, String.toList_ofList, List.mem_append, List.mem_singleton,
    List.mem_flatMap] at hmem
  rcases hmem with (rfl | ⟨escaped, -, hword⟩) | rfl
  · exact isPrintable_of_ascii (by decide) (by decide)
  · exact (escape_escapeChar escaped).isPrintable_of_mem hword
  · exact isPrintable_of_ascii (by decide) (by decide)

/-! ## Messages -/

namespace VocabularyError

theorem isPrintable_of_mem_tag {kind : Kind} {char : Char} (hmem : char ∈ kind.tag.toList) :
    isPrintable char = true :=
  isPrintable_of_isAlphanum (Kind.isAlphanum_of_mem_tag hmem)

/-- The words of the messages. -/
def messageWords : List String :=
  ["empty spelling registered for ", "spelling ", " registered for both ", "and "]

theorem isPrintable_of_mem_words {words : String} (hwords : words ∈ messageWords) {char : Char}
    (hmem : char ∈ words.toList) : isPrintable char = true := by
  have hall : ∀ words ∈ messageWords, words.toList.all isPrintable = true := by decide +kernel
  exact List.all_eq_true.mp (hall words hwords) char hmem

theorem isPrintable_of_mem_message {fault : VocabularyError} {char : Char}
    (hmem : char ∈ fault.message.toList) : isPrintable char = true := by
  cases fault with
  | emptySpelling kind =>
      rw [toList_message_emptySpelling, List.mem_append] at hmem
      rcases hmem with hwords | htag
      · exact isPrintable_of_mem_words (by decide) hwords
      · exact isPrintable_of_mem_tag htag
  | duplicateSpelling spelling first second =>
      rw [toList_message_duplicateSpelling] at hmem
      simp only [List.mem_append, List.mem_cons] at hmem
      rcases hmem with hwords | hquote | hwords | htag | rfl | hwords | htag
      · exact isPrintable_of_mem_words (by decide) hwords
      · exact isPrintable_of_mem_quote hquote
      · exact isPrintable_of_mem_words (by decide) hwords
      · exact isPrintable_of_mem_tag htag
      · exact isPrintable_of_ascii (by decide) (by decide)
      · exact isPrintable_of_mem_words (by decide) hwords
      · exact isPrintable_of_mem_tag htag

/-- The quoted spelling of a message starts behind the first word and ends where its quotes are
closed. -/
theorem quotedSpan_message (spelling : String) (first second : Kind) :
    QuotedSpan (duplicateSpelling spelling first second).message.toList "spelling ".length
      ("spelling ".length + 1 + (spelling.toList.flatMap escapeChar).length) := by
  rw [toList_message_duplicateSpelling, ← List.append_assoc]
  exact quotedSpan_quote _ _ _

/-- Every message is one printable line.  It has no control character, no format character, none for
private use, no separator but the plain space, none that joins the one before it and none that is
unassigned, whatever the spelling.  In the message on a repeated spelling that spelling stands
quoted behind the first word.  Each double quote within has an odd number of backslashes in front of
it, and the first double quote with an even number closes the quoted spelling. -/
theorem message_printable_line :
    (∀ fault : VocabularyError, ∀ char ∈ fault.message.toList,
        char ∉ CharSet.control ∧ char ∉ CharSet.format ∧ char ∉ CharSet.privateUse ∧
          char ∉ CharSet.separators ∧ char ∉ CharSet.combining ∧ char ∉ CharSet.unassigned) ∧
      ∀ spelling first second,
        (duplicateSpelling spelling first second).message =
            "spelling " ++ quote spelling ++ " registered for both " ++ first.tag ++ " and " ++
              second.tag ∧
          QuotedSpan (duplicateSpelling spelling first second).message.toList "spelling ".length
            ("spelling ".length + 1 + (spelling.toList.flatMap escapeChar).length) := by
  refine ⟨?_, ?_⟩
  · intro fault char hmem
    exact isPrintable_iff.mp (isPrintable_of_mem_message hmem)
  · intro spelling first second
    exact ⟨rfl, quotedSpan_message spelling first second⟩

/-- A spelling with a double quote, a line break, a mark of direction and a backslash at its end
stays within its quotes, from the first double quote of the message to the last. -/
theorem message_printable_line_forged :
    (duplicateSpelling "==\"\n\u202e\\" .comma .space).message =
        "spelling \"==\\\"\\n\\u\x7b202e\x7d\\\\\" registered for both Comma and Space" ∧
      '\\' ∈ (duplicateSpelling "==\"\n\u202e\\" .comma .space).message.toList ∧
      '\\' ∉ CharSet.control ∧
      QuotedSpan (duplicateSpelling "==\"\n\u202e\\" .comma .space).message.toList 9 26 := by
  obtain ⟨hprintable, hquoted⟩ := message_printable_line
  have hmem : '\\' ∈ (duplicateSpelling "==\"\n\u202e\\" .comma .space).message.toList := by
    decide +kernel
  have hclosing : "spelling ".length + 1 +
      ("==\"\n\u202e\\".toList.flatMap escapeChar).length = 26 := by
    decide +kernel
  obtain ⟨-, hspan⟩ := hquoted "==\"\n\u202e\\" .comma .space
  rw [hclosing] at hspan
  obtain ⟨hcontrol, -⟩ := hprintable _ _ hmem
  exact ⟨by decide +kernel, hmem, hcontrol, hspan⟩

end VocabularyError

end PhpLexicon
