import PhpLexicon.Vocabulary.Error

/-!
# Reading quoted text back

The escapes of characters are a code in which no word begins another, and none begins with a double
quote.  Behind a quoted text anything may follow: the text can still be read off the start, because
the first double quote at which a new escape would have to begin is the one that closes it.
-/

namespace PhpLexicon

/-- A list is cut in one way only at the first place where a given element stands. -/
theorem append_cons_inj {α : Type} [DecidableEq α] {mark : α}
    {left right behindLeft behindRight : List α} (hleft : mark ∉ left) (hright : mark ∉ right)
    (heq : left ++ mark :: behindLeft = right ++ mark :: behindRight) :
    left = right ∧ behindLeft = behindRight := by
  -- In both lists the first place of the element is the length of what stands in front of it.
  have hlength : left.length = right.length := by
    calc
      left.length = (left ++ mark :: behindLeft).idxOf mark := by
        rw [List.idxOf_append, if_neg hleft, List.idxOf_cons_self, Nat.zero_add]
      _ = (right ++ mark :: behindRight).idxOf mark := by rw [heq]
      _ = right.length := by
        rw [List.idxOf_append, if_neg hright, List.idxOf_cons_self, Nat.zero_add]
  obtain ⟨hsame, hbehind⟩ := List.append_inj heq hlength
  exact ⟨hsame, List.tail_eq_of_cons_eq hbehind⟩

/-! ## Hexadecimal numbers -/

/-- The value of a hexadecimal digit. -/
def hexDigitValue (char : Char) : Nat :=
  "0123456789abcdef".toList.idxOf char

/-- The number that hexadecimal digits stand for. -/
def hexValue (digits : List Char) : Nat :=
  digits.foldl (fun value char => 16 * value + hexDigitValue char) 0

theorem hexDigitValue_digitChar :
    ∀ digit < 16, hexDigitValue (Nat.digitChar digit) = digit := by
  decide

/-- A number is read back from its hexadecimal digits. -/
theorem hexValue_toDigits (number : Nat) : hexValue (Nat.toDigits 16 number) = number := by
  -- `Nat.ofDigitChars_toDigits` says this of the bases up to ten only.
  induction number using Nat.strongRecOn with
  | ind number ih =>
      by_cases hsmall : number < 16
      · rw [Nat.toDigits_of_lt_base hsmall, hexValue, List.foldl_cons, List.foldl_nil,
          hexDigitValue_digitChar number hsmall, Nat.mul_zero, Nat.zero_add]
      · have hlarge := Nat.le_of_not_lt hsmall
        have hhigh := ih (number / 16) (by omega)
        rw [hexValue] at hhigh
        rw [Nat.toDigits_of_base_le (by decide) hlarge, hexValue, List.foldl_append, hhigh,
          List.foldl_cons, List.foldl_nil,
          hexDigitValue_digitChar (number % 16) (Nat.mod_lt number (by decide))]
        exact Nat.div_add_mod number 16

theorem toDigits_inj {left right : Nat} (heq : Nat.toDigits 16 left = Nat.toDigits 16 right) :
    left = right := by
  calc
    left = hexValue (Nat.toDigits 16 left) := (hexValue_toDigits left).symm
    _ = hexValue (Nat.toDigits 16 right) := by rw [heq]
    _ = right := hexValue_toDigits right

theorem exists_digit_of_mem_toDigits {number : Nat} {char : Char}
    (hmem : char ∈ Nat.toDigits 16 number) : ∃ digit < 16, char = Nat.digitChar digit := by
  induction number using Nat.strongRecOn with
  | ind number ih =>
      by_cases hsmall : number < 16
      · rw [Nat.toDigits_of_lt_base hsmall, List.mem_singleton] at hmem
        exact ⟨number, hsmall, hmem⟩
      · have hlarge := Nat.le_of_not_lt hsmall
        rw [Nat.toDigits_of_base_le (by decide) hlarge, List.mem_append, List.mem_singleton] at hmem
        rcases hmem with hhigh | hlast
        · exact ih (number / 16) (by omega) hhigh
        · exact ⟨number % 16, Nat.mod_lt number (by decide), hlast⟩

theorem not_mem_toDigits {char : Char} (hchar : ∀ digit < 16, char ≠ Nat.digitChar digit)
    (number : Nat) : char ∉ Nat.toDigits 16 number := by
  intro hmem
  obtain ⟨digit, hdigit, heq⟩ := exists_digit_of_mem_toDigits hmem
  exact hchar digit hdigit heq

theorem brace_not_mem_toDigits (number : Nat) : '\x7d' ∉ Nat.toDigits 16 number :=
  not_mem_toDigits (by decide) number

/-! ## Escapes -/

/-- The characters that are escaped by a letter of their own, each with that letter. -/
def letteredEscapes : List (Char × Char) :=
  [('\"', '\"'), ('\\', '\\'), ('\t', 't'), ('\n', 'n'), ('\r', 'r'), ('\x00', '0')]

/-- The forms in which a character stands between the quotes. -/
inductive Escape : Char → List Char → Prop where
  /-- A printable character stands for itself, unless it is a double quote or a backslash. -/
  | plain {char : Char} (hquote : char ≠ '\"') (hbackslash : char ≠ '\\')
      (hprintable : isPrintable char = true) : Escape char [char]
  /-- A backslash and a letter. -/
  | lettered {char letter : Char} (hletter : (char, letter) ∈ letteredEscapes) :
      Escape char ['\\', letter]
  /-- The code point between braces. -/
  | numbered {char : Char} :
      Escape char ('\\' :: 'u' :: '\x7b' :: (Nat.toDigits 16 char.toNat ++ ['\x7d']))

theorem escape_escapeChar (char : Char) : Escape char (escapeChar char) := by
  unfold escapeChar
  split
  case h_7 hquote hbackslash _ _ _ _ =>
    split
    · rename_i hprintable
      exact Escape.plain hquote hbackslash hprintable
    · exact Escape.numbered
  all_goals exact Escape.lettered (by decide)

/-- A letter stands for one character, and none of them begins a number. -/
theorem letteredEscapes_unambiguous :
    ∀ left ∈ letteredEscapes, left.2 ≠ 'u' ∧
      ∀ right ∈ letteredEscapes, left.2 = right.2 → left.1 = right.1 := by
  decide

/-- No escape is the beginning of another: an escape is found at the start of a text in one way
only, whatever follows it. -/
theorem Escape.append_inj {left right : Char} {first second behindFirst behindSecond : List Char}
    (hfirst : Escape left first) (hsecond : Escape right second)
    (heq : first ++ behindFirst = second ++ behindSecond) :
    left = right ∧ behindFirst = behindSecond := by
  cases hfirst with
  | plain _ hbackslash _ =>
      cases hsecond with
      | plain => simpa using heq
      | lettered => simp [hbackslash] at heq
      | numbered => simp [hbackslash] at heq
  | lettered hletter =>
      have hleft := letteredEscapes_unambiguous _ hletter
      cases hsecond with
      | plain _ hbackslash _ => simp [Ne.symm hbackslash] at heq
      | lettered hother =>
          simp only [List.cons_append, List.nil_append, List.cons.injEq, true_and] at heq
          exact ⟨hleft.2 _ hother heq.1, heq.2⟩
      | numbered => simp [hleft.1] at heq
  | numbered =>
      cases hsecond with
      | plain _ hbackslash _ => simp [Ne.symm hbackslash] at heq
      | lettered hother =>
          have hright := letteredEscapes_unambiguous _ hother
          simp [Ne.symm hright.1] at heq
      | numbered =>
          simp only [List.cons_append, List.append_assoc, List.cons.injEq, true_and,
            List.nil_append] at heq
          obtain ⟨hdigits, hbehind⟩ :=
            append_cons_inj (brace_not_mem_toDigits _) (brace_not_mem_toDigits _) heq
          exact ⟨Char.toNat_inj.mp (toDigits_inj hdigits), hbehind⟩

theorem escapeChar_append_inj {left right : Char} {behindLeft behindRight : List Char}
    (heq : escapeChar left ++ behindLeft = escapeChar right ++ behindRight) :
    left = right ∧ behindLeft = behindRight :=
  (escape_escapeChar left).append_inj (escape_escapeChar right) heq

/-- No escape begins with a double quote. -/
theorem escapeChar_append_ne_quote (char : Char) (behind rest : List Char) :
    escapeChar char ++ behind ≠ '\"' :: rest := by
  intro heq
  have hescape := escape_escapeChar char
  generalize escapeChar char = word at hescape heq
  cases hescape with
  | plain hquote _ _ => simp [hquote] at heq
  | lettered => simp at heq
  | numbered => simp at heq

/-! ## Quoted texts -/

/-- Escaped characters up to the closing double quote determine the characters, and what stands
behind it. -/
theorem flatMap_escapeChar_append_inj {left right behindLeft behindRight : List Char}
    (heq : left.flatMap escapeChar ++ '\"' :: behindLeft =
      right.flatMap escapeChar ++ '\"' :: behindRight) :
    left = right ∧ behindLeft = behindRight := by
  induction left generalizing right with
  | nil =>
      cases right with
      | nil => simpa using heq
      | cons head tail =>
          rw [List.flatMap_nil, List.nil_append, List.flatMap_cons, List.append_assoc] at heq
          exact absurd heq.symm (escapeChar_append_ne_quote head _ _)
  | cons first rest ih =>
      rw [List.flatMap_cons, List.append_assoc] at heq
      cases right with
      | nil => exact absurd heq (escapeChar_append_ne_quote first _ _)
      | cons head tail =>
          rw [List.flatMap_cons, List.append_assoc] at heq
          obtain ⟨hfirst, htails⟩ := escapeChar_append_inj heq
          obtain ⟨hrest, hbehind⟩ := ih htails
          exact ⟨by rw [hfirst, hrest], hbehind⟩

/-- A text that begins with a quoted text determines it, and what stands behind it. -/
theorem quote_append_inj {left right : String} {behindLeft behindRight : List Char}
    (heq : (quote left).toList ++ behindLeft = (quote right).toList ++ behindRight) :
    left = right ∧ behindLeft = behindRight := by
  simp only [quote, String.toList_ofList, List.append_assoc, List.nil_append,
    List.cons_append, List.cons.injEq, true_and] at heq
  obtain ⟨htext, hbehind⟩ := flatMap_escapeChar_append_inj heq
  exact ⟨String.toList_inj.mp htext, hbehind⟩

end PhpLexicon
