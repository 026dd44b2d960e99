import Mathlib.Algebra.Ring.Parity
import Mathlib.Data.List.DropRight
import Mathlib.Order.Bounds.Defs
import PhpLexicon.Proofs.QuotedText

/-!
# Where a quoted text ends

The end of a quoted text is found without knowing the escapes, by counting the backslashes that
stand directly in front of a double quote.  An odd number of them means that the double quote
belongs to the text, and the first double quote with an even number closes it.  This works since
every escape leaves an even number of backslashes behind when it finds one.
-/

namespace PhpLexicon

/-- The number of backslashes that stand at the end of a text, one directly behind another. -/
def trailingBackslashes (text : List Char) : Nat :=
  (text.rtakeWhile (· == '\\')).length

theorem trailingBackslashes_append_backslash (text : List Char) :
    trailingBackslashes (text ++ ['\\']) = trailingBackslashes text + 1 := by
  rw [trailingBackslashes, List.rtakeWhile_concat_pos _ _ _ rfl, List.length_append]
  rfl

theorem trailingBackslashes_append_of_ne {last : Char} (hlast : last ≠ '\\') (text : List Char) :
    trailingBackslashes (text ++ [last]) = 0 := by
  rw [trailingBackslashes, List.rtakeWhile_concat_neg _ _ _ (by simpa using hlast)]
  rfl

theorem even_trailingBackslashes_of_ne {last : Char} (hlast : last ≠ '\\') (text : List Char) :
    Even (trailingBackslashes (text ++ [last])) := by
  rw [trailingBackslashes_append_of_ne hlast]
  exact Even.zero

/-! ## Escapes keep the count even -/

section Escapes

variable {front before after word text : List Char} {char : Char}

/-- Behind an even number of backslashes an escape leaves an even number of them. -/
theorem Escape.even_trailingBackslashes (hescape : Escape char word)
    (heven : Even (trailingBackslashes front)) : Even (trailingBackslashes (front ++ word)) := by
  cases hescape with
  | plain _ hbackslash _ => exact even_trailingBackslashes_of_ne hbackslash front
  | @lettered letter _ =>
      rw [List.append_cons]
      by_cases hbackslash : letter = '\\'
      · rw [hbackslash, trailingBackslashes_append_backslash, trailingBackslashes_append_backslash]
        exact heven.add_one.add_one
      · exact even_trailingBackslashes_of_ne hbackslash _
  | numbered =>
      -- The number ends in a brace.
      rw [← List.cons_append, ← List.cons_append, ← List.cons_append, ← List.append_assoc]
      exact even_trailingBackslashes_of_ne (by decide) _

/-- A double quote within an escape has one more backslash in front of it than the escape. -/
theorem Escape.odd_trailingBackslashes_of_quote (hescape : Escape char word)
    (heven : Even (trailingBackslashes front)) (hsplit : word = before ++ '\"' :: after) :
    Odd (trailingBackslashes (front ++ before)) := by
  have hmem : '\"' ∈ word := by
    rw [hsplit]
    exact List.mem_append_right before List.mem_cons_self
  cases hescape with
  | plain hquote _ _ => exact absurd (List.mem_singleton.mp hmem).symm hquote
  | lettered =>
      -- The first character is a backslash, so the double quote can only be the letter.
      cases before with
      | nil => simp at hsplit
      | cons head tail =>
          obtain ⟨rfl, htail⟩ := List.cons.inj hsplit
          have hnil : tail = [] := by
            cases tail with
            | nil => rfl
            | cons _ _ => simp at htail
          rw [hnil, trailingBackslashes_append_backslash]
          exact heven.add_one
  | numbered =>
      have hdigits : '\"' ∉ Nat.toDigits 16 char.toNat := not_mem_toDigits (by decide) _
      simp [hdigits] at hmem

theorem even_trailingBackslashes_flatMap (heven : Even (trailingBackslashes front)) :
    Even (trailingBackslashes (front ++ text.flatMap escapeChar)) := by
  induction text generalizing front with
  | nil => simpa using heven
  | cons first rest ih =>
      rw [List.flatMap_cons, ← List.append_assoc]
      exact ih ((escape_escapeChar first).even_trailingBackslashes heven)

/-- Every double quote among escapes has an odd number of backslashes in front of it. -/
theorem odd_trailingBackslashes_of_quote (heven : Even (trailingBackslashes front))
    (hsplit : text.flatMap escapeChar = before ++ '\"' :: after) :
    Odd (trailingBackslashes (front ++ before)) := by
  -- Induction on the text; what stands in front of the first escape is part of the front.
  induction text generalizing front before with
  | nil => simp at hsplit
  | cons first rest ih =>
      have hescape := escape_escapeChar first
      have hnext := hescape.even_trailingBackslashes heven
      rw [List.flatMap_cons, List.append_eq_append_iff] at hsplit
      obtain ⟨between, hbefore, hrest⟩ | ⟨between, hword, hquote⟩ := hsplit
      · rw [hbefore, ← List.append_assoc]
        exact ih hnext hrest
      · cases between with
        | nil =>
            -- The double quote stands directly behind the first escape.
            rw [List.append_nil] at hword
            have hodd : Odd (trailingBackslashes (front ++ escapeChar first ++ [])) :=
              ih hnext hquote.symm
            rwa [List.append_nil, hword] at hodd
        | cons head tail =>
            obtain ⟨rfl, -⟩ := List.cons.inj hquote
            exact hescape.odd_trailingBackslashes_of_quote heven hword

theorem odd_trailingBackslashes_of_getElem? {offset : Nat}
    (heven : Even (trailingBackslashes front))
    (hquote : (text.flatMap escapeChar)[offset]? = some '\"') :
    Odd (trailingBackslashes (front ++ (text.flatMap escapeChar).take offset)) := by
  obtain ⟨hbound, hchar⟩ := List.getElem?_eq_some_iff.mp hquote
  have hsplit : text.flatMap escapeChar = (text.flatMap escapeChar).take offset ++
      '\"' :: (text.flatMap escapeChar).drop (offset + 1) := by
    rw [← hchar, ← List.drop_eq_getElem_cons hbound, List.take_append_drop]
  exact odd_trailingBackslashes_of_quote heven hsplit

end Escapes

/-! ## Quoted texts within a line -/

/-- A part of a line from one double quote to another, where the second can be told from those
between them by the backslashes in front of it. -/
structure QuotedSpan (chars : List Char) (opening closing : Nat) : Prop where
  /-- The part begins with a double quote. -/
  opens : chars[opening]? = some '\"'
  /-- A double quote between the ends has an odd number of backslashes in front of it. -/
  escaped : ∀ place, opening < place → place < closing → chars[place]? = some '\"' →
    Odd (trailingBackslashes (chars.take place))
  /-- The first double quote that has an even number of backslashes in front of it is the end. -/
  closes : IsLeast {place | opening < place ∧ chars[place]? = some '\"' ∧
    Even (trailingBackslashes (chars.take place))} closing

/-- If all double quotes between the ends are escaped, then no end comes earlier. -/
theorem QuotedSpan.of_escaped {chars : List Char} {opening closing : Nat}
    (hopens : chars[opening]? = some '\"')
    (hescaped : ∀ place, opening < place → place < closing → chars[place]? = some '\"' →
      Odd (trailingBackslashes (chars.take place)))
    (horder : opening < closing) (hcloses : chars[closing]? = some '\"')
    (heven : Even (trailingBackslashes (chars.take closing))) : QuotedSpan chars opening closing where
  opens := hopens
  escaped := hescaped
  closes := by
    refine ⟨⟨horder, hcloses, heven⟩, ?_⟩
    rintro place ⟨hbehind, hquote, hbare⟩
    by_contra hbefore
    have hodd := hescaped place hbehind (Nat.lt_of_not_le hbefore) hquote
    exact Nat.not_even_iff_odd.mpr hodd hbare

/-- A quoted text can be cut out of a line, whatever stands around it. -/
theorem quotedSpan_quote (front : List Char) (text : String) (behind : List Char) :
    QuotedSpan (front ++ (quote text).toList ++ behind) front.length
      (front.length + 1 + (text.toList.flatMap escapeChar).length) := by
  have hline : front ++ (quote text).toList ++ behind =
      (front ++ ['\"']) ++ (text.toList.flatMap escapeChar ++ '\"' :: behind) := by
    simp only [quote, String.toList_ofList, List.append_assoc, List.cons_append, List.nil_append]
  have hlength : front.length + 1 = (front ++ ['\"']).length := by
    rw [List.length_append, List.length_singleton]
  have hopened : Even (trailingBackslashes (front ++ ['\"'])) :=
    even_trailingBackslashes_of_ne (by decide) front
  rw [hline, hlength]
  refine QuotedSpan.of_escaped ?_ ?_ ?_ ?_ ?_
  · rw [List.append_assoc, List.getElem?_append_right (Nat.le_refl _), Nat.sub_self]
    rfl
  · intro place hbehind hbefore hquote
    have hinside : (front ++ ['\"']).length ≤ place := hlength.symm.trans_le hbehind
    obtain ⟨offset, rfl⟩ := Nat.exists_eq_add_of_le hinside
    have hoffset := Nat.lt_of_add_lt_add_left hbefore
    rw [List.getElem?_append_right (Nat.le_add_right _ _), Nat.add_sub_cancel_left,
      List.getElem?_append_left hoffset] at hquote
    rw [List.take_length_add_append, List.take_append_of_le_length (Nat.le_of_lt hoffset)]
    exact odd_trailingBackslashes_of_getElem? hopened hquote
  · omega
  · rw [List.getElem?_append_right (Nat.le_add_right _ _), Nat.add_sub_cancel_left,
      List.getElem?_append_right (Nat.le_refl _), Nat.sub_self]
    rfl
  · rw [List.take_length_add_append, List.take_left]
    exact even_trailingBackslashes_flatMap hopened

end PhpLexicon
