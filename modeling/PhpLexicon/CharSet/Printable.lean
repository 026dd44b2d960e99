import PhpLexicon.CharSet.Combining
import PhpLexicon.CharSet.Unassigned

/-!
# Printable characters

A character is printable when a reader can see it as itself in a line of text.  What is not
printable falls into six classes, each a set of its own; the data is that of Unicode 17.0.
-/

namespace PhpLexicon

namespace CharSet

/-- The control characters, the general category Cc. -/
def control : CharSet where
  ranges := [(0x0, 0x1F), (0x7F, 0x9F)]
  apart := by decide

/-- The format characters, the general category Cf: soft hyphens, joiners, marks of direction. -/
def format : CharSet where
  ranges :=
    [(0xAD, 0xAD), (0x600, 0x605), (0x61C, 0x61C), (0x6DD, 0x6DD), (0x70F, 0x70F), (0x890, 0x891),
     (0x8E2, 0x8E2), (0x180E, 0x180E), (0x200B, 0x200F), (0x202A, 0x202E), (0x2060, 0x2064),
     (0x2066, 0x206F), (0xFEFF, 0xFEFF), (0xFFF9, 0xFFFB), (0x110BD, 0x110BD), (0x110CD, 0x110CD),
     (0x13430, 0x1343F), (0x1BCA0, 0x1BCA3), (0x1D173, 0x1D17A), (0xE0001, 0xE0001),
     (0xE0020, 0xE007F)]
  apart := by decide

/-- The characters for private use, the general category Co. -/
def privateUse : CharSet where
  ranges := [(0xE000, 0xF8FF), (0xF0000, 0xFFFFD), (0x100000, 0x10FFFD)]
  apart := by decide

/-- The separators of words, lines and paragraphs other than the plain space U+0020: the general
categories Zs, Zl and Zp. -/
def separators : CharSet where
  ranges :=
    [(0xA0, 0xA0), (0x1680, 0x1680), (0x2000, 0x200A), (0x2028, 0x2029), (0x202F, 0x202F),
     (0x205F, 0x205F), (0x3000, 0x3000)]
  apart := by decide

end CharSet

/-- Whether a character shows as itself in a line of text.  The plain space does. -/
def isPrintable (char : Char) : Bool :=
  !(CharSet.control.contains char || CharSet.format.contains char ||
    CharSet.privateUse.contains char || CharSet.separators.contains char ||
    CharSet.combining.contains char || CharSet.unassigned.contains char)

theorem isPrintable_iff {char : Char} :
    isPrintable char = true ↔
      char ∉ CharSet.control ∧ char ∉ CharSet.format ∧ char ∉ CharSet.privateUse ∧
        char ∉ CharSet.separators ∧ char ∉ CharSet.combining ∧ char ∉ CharSet.unassigned := by
  simp only [isPrintable, Membership.mem, Bool.not_eq_true', Bool.or_eq_false_iff,
    Bool.not_eq_true, and_assoc]

end PhpLexicon
