import PhpLexicon.Proofs.QuotedText

/-!
# Messages identify faults

A fault can be read back from its message.  The first words tell which fault it is; the quoted
spelling ends at its closing double quote, whatever characters it has; and since a tag has no space,
the first space behind the quoted spelling's own words parts the two kinds.
-/

namespace PhpLexicon.VocabularyError

/-- The tag at the start of a text is read off up to the first space. -/
theorem tag_append_inj {left right : Kind} {behindLeft behindRight : List Char}
    (heq : left.tag.toList ++ ' ' :: behindLeft = right.tag.toList ++ ' ' :: behindRight) :
    left = right ∧ behindLeft = behindRight := by
  obtain ⟨htag, hbehind⟩ :=
    append_cons_inj (Kind.not_mem_tag (by decide)) (Kind.not_mem_tag (by decide)) heq
  exact ⟨Kind.tag_injective (String.toList_inj.mp htag), hbehind⟩

/-! ## The characters of a message -/

theorem toList_message_emptySpelling (kind : Kind) :
    (emptySpelling kind).message.toList =
      "empty spelling registered for ".toList ++ kind.tag.toList := by
  change ("empty spelling registered for " ++ kind.tag).toList = _
  exact String.toList_append

theorem toList_message_duplicateSpelling (spelling : String) (first second : Kind) :
    (duplicateSpelling spelling first second).message.toList =
      "spelling ".toList ++ ((quote spelling).toList ++ (" registered for both ".toList ++
        (first.tag.toList ++ ' ' :: ("and ".toList ++ second.tag.toList)))) := by
  have hand : " and ".toList = ' ' :: "and ".toList := by decide
  change ("spelling " ++ quote spelling ++ " registered for both " ++ first.tag ++ " and " ++
    second.tag).toList = _
  simp only [String.toList_append, List.append_assoc, hand, List.cons_append]

theorem message_emptySpelling_ne (kind : Kind) (spelling : String) (first second : Kind) :
    (emptySpelling kind).message ≠ (duplicateSpelling spelling first second).message := by
  intro heq
  have hchars := congrArg String.toList heq
  rw [toList_message_emptySpelling, toList_message_duplicateSpelling] at hchars
  have hhead := congrArg List.head? hchars
  simp at hhead

/-- Faults with the same message are the same.  The message tells which fault it is, the exact
spelling and both kinds, even where the spelling has double quotes, backslashes, the look of an
escape or the words of the message in it. -/
theorem message_injective : Function.Injective message := by
  intro left right heq
  cases left with
  | emptySpelling kind =>
      cases right with
      | emptySpelling other =>
          have hchars := congrArg String.toList heq
          rw [toList_message_emptySpelling, toList_message_emptySpelling] at hchars
          have htag := String.toList_inj.mp (List.append_cancel_left hchars)
          rw [Kind.tag_injective htag]
      | duplicateSpelling spelling first second =>
          exact absurd heq (message_emptySpelling_ne kind spelling first second)
  | duplicateSpelling spelling first second =>
      cases right with
      | emptySpelling kind =>
          exact absurd heq.symm (message_emptySpelling_ne kind spelling first second)
      | duplicateSpelling other otherFirst otherSecond =>
          have hchars := congrArg String.toList heq
          rw [toList_message_duplicateSpelling, toList_message_duplicateSpelling] at hchars
          obtain ⟨hspelling, hkinds⟩ := quote_append_inj (List.append_cancel_left hchars)
          obtain ⟨hfirst, hlast⟩ := tag_append_inj (List.append_cancel_left hkinds)
          have htag := String.toList_inj.mp (List.append_cancel_left hlast)
          rw [hspelling, hfirst, Kind.tag_injective htag]

end PhpLexicon.VocabularyError
