/-!
# Sets of characters

A set of characters is a list of ranges of code points, ascending and apart from each other.  Both
are part of the type, so a search may stop at the first range beyond a character, and the ranges of
a set are its maximal runs.
-/

namespace PhpLexicon

/-- Ranges of code points, both ends included, of which each is in order and ends at least two
code points before the next begins. -/
def RangesApart : List (Nat × Nat) → Bool
  | [] => true
  | [range] => range.1 ≤ range.2
  | range :: next :: rest =>
      range.1 ≤ range.2 && range.2 + 1 < next.1 && RangesApart (next :: rest)

/-- Whether a code point lies in one of the ranges of an ascending list. -/
def rangesCover : List (Nat × Nat) → Nat → Bool
  | [], _ => false
  | range :: rest, point => range.1 ≤ point && (point ≤ range.2 || rangesCover rest point)

/-- A set of characters, given by the ranges of their code points. -/
structure CharSet where
  /-- The first and the last code point of each run. -/
  ranges : List (Nat × Nat)
  /-- The ranges ascend, and no two of them touch. -/
  apart : RangesApart ranges = true

namespace CharSet

/-- Whether a character belongs to the set. -/
def contains (set : CharSet) (char : Char) : Bool :=
  rangesCover set.ranges char.toNat

instance : Membership Char CharSet where
  mem set char := set.contains char = true

instance (char : Char) (set : CharSet) : Decidable (char ∈ set) :=
  inferInstanceAs (Decidable (set.contains char = true))

/-- The maximal runs of members between two code points, both included. -/
def runsBetween (set : CharSet) (first last : Nat) : List (Nat × Nat) :=
  set.ranges.filterMap fun range =>
    if max first range.1 ≤ min last range.2 then
      some (max first range.1, min last range.2)
    else
      none

end CharSet

end PhpLexicon
