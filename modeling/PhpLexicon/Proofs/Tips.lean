import PhpLexicon.Proofs.QuotedText

/-!
# What a tip tells

A tip shows the spelling raw.  Read from the left it is ambiguous, since a spelling may hold
back-quotes and the words of the tip itself.  Read from the right it is not: the last words are
fixed, a tag has no back-quote, and so the last back-quote in front of them opens the tag.  What is
left stands between fixed words, and it is the spelling.
-/

namespace PhpLexicon

/-- A list is cut in one way only at the last place where a given element stands. -/
theorem append_cons_inj_of_last {α : Type} [DecidableEq α] {mark : α}
    {frontLeft frontRight left right : List α} (hleft : mark ∉ left) (hright : mark ∉ right)
    (heq : frontLeft ++ mark :: left = frontRight ++ mark :: right) :
    frontLeft = frontRight ∧ left = right := by
  have hreverse : left.reverse ++ mark :: frontLeft.reverse =
      right.reverse ++ mark :: frontRight.reverse := by
    simpa using congrArg List.reverse heq
  obtain ⟨hsame, hfront⟩ := append_cons_inj (fun hmem => hleft (List.mem_reverse.mp hmem))
    (fun hmem => hright (List.mem_reverse.mp hmem)) hreverse
  exact ⟨List.reverse_inj.mp hfront, List.reverse_inj.mp hsame⟩

namespace VocabularyError

/-- The tag at the end of a text is read off behind the last back-quote. -/
theorem append_tag_inj {frontLeft frontRight : List Char} {left right : Kind}
    (heq : frontLeft ++ '\x60' :: left.tag.toList = frontRight ++ '\x60' :: right.tag.toList) :
    frontLeft = frontRight ∧ left = right := by
  obtain ⟨hfront, htag⟩ :=
    append_cons_inj_of_last (Kind.not_mem_tag (by decide)) (Kind.not_mem_tag (by decide)) heq
  exact ⟨hfront, Kind.tag_injective (String.toList_inj.mp htag)⟩

/-! ## The characters of a tip -/

theorem toList_tip_emptySpelling (kind : Kind) :
    (emptySpelling kind).tip.toList =
      "Remove the empty entry for `".toList ++ kind.tag.toList ++ "`".toList := by
  change ("Remove the empty entry for `" ++ kind.tag ++ "`").toList = _
  simp only [String.toList_append]

theorem toList_tip_duplicateSpelling (spelling : String) (first second : Kind) :
    (duplicateSpelling spelling first second).tip.toList =
      "`".toList ++ spelling.toList ++ "` is already registered for ".toList ++
        '\x60' :: first.tag.toList ++ "`, a spelling may map to one kind only".toList := by
  have hwords : "` is already registered for `".toList =
      "` is already registered for ".toList ++ ['\x60'] := by decide
  change ("`" ++ spelling ++ "` is already registered for `" ++ first.tag ++
    "`, a spelling may map to one kind only").toList = _
  simp only [String.toList_append, hwords, List.append_assoc, List.cons_append, List.nil_append]

theorem tip_emptySpelling_ne (kind : Kind) (spelling : String) (first second : Kind) :
    (emptySpelling kind).tip ≠ (duplicateSpelling spelling first second).tip := by
  intro heq
  have hchars := congrArg String.toList heq
  rw [toList_tip_emptySpelling, toList_tip_duplicateSpelling] at hchars
  have hhead := congrArg List.head? hchars
  simp at hhead

theorem tip_emptySpelling_inj {left right : Kind}
    (heq : (emptySpelling left).tip = (emptySpelling right).tip) : left = right := by
  have hchars := congrArg String.toList heq
  rw [toList_tip_emptySpelling, toList_tip_emptySpelling] at hchars
  have htag := List.append_cancel_left (List.append_cancel_right hchars)
  exact Kind.tag_injective (String.toList_inj.mp htag)

theorem tip_duplicateSpelling_inj {left right : String} {leftFirst leftSecond : Kind}
    {rightFirst rightSecond : Kind}
    (heq : (duplicateSpelling left leftFirst leftSecond).tip =
      (duplicateSpelling right rightFirst rightSecond).tip) :
    left = right ∧ leftFirst = rightFirst := by
  have hchars := congrArg String.toList heq
  rw [toList_tip_duplicateSpelling, toList_tip_duplicateSpelling] at hchars
  obtain ⟨hfront, hfirst⟩ := append_tag_inj (List.append_cancel_right hchars)
  have hspelling := List.append_cancel_left (List.append_cancel_right hfront)
  exact ⟨String.toList_inj.mp hspelling, hfirst⟩

/-- Two faults have the same tip exactly when they are empty spellings of one kind, or repeats of
one spelling that was first registered for one kind.  The kind of the repeat is not told.  Nothing
else can bring about the same tip, not even a spelling with back-quotes or with a copy of the tip's
own words in it. -/
theorem tip_eq_iff (left right : VocabularyError) :
    left.tip = right.tip ↔
      (∃ kind, left = emptySpelling kind ∧ right = emptySpelling kind) ∨
        ∃ spelling first leftSecond rightSecond,
          left = duplicateSpelling spelling first leftSecond ∧
            right = duplicateSpelling spelling first rightSecond := by
  constructor
  · intro heq
    cases left with
    | emptySpelling kind =>
        cases right with
        | emptySpelling other =>
            rw [tip_emptySpelling_inj heq]
            exact Or.inl ⟨other, rfl, rfl⟩
        | duplicateSpelling spelling first second =>
            exact absurd heq (tip_emptySpelling_ne kind spelling first second)
    | duplicateSpelling spelling first second =>
        cases right with
        | emptySpelling kind =>
            exact absurd heq.symm (tip_emptySpelling_ne kind spelling first second)
        | duplicateSpelling other otherFirst otherSecond =>
            obtain ⟨rfl, rfl⟩ := tip_duplicateSpelling_inj heq
            exact Or.inr ⟨spelling, first, second, otherSecond, rfl, rfl⟩
  · rintro (⟨kind, rfl, rfl⟩ | ⟨spelling, first, leftSecond, rightSecond, rfl, rfl⟩)
    · rfl
    · rfl

/-- A spelling that ends like the tip of a shorter one does not have its tip. -/
example :
    (duplicateSpelling "==` is already registered for `Comma" .comma .space).tip ≠
      (duplicateSpelling "==" .comma .space).tip := by
  decide +kernel

end VocabularyError

end PhpLexicon
