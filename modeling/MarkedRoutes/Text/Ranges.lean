/-!
# Sets of code points as ranges

A Unicode property is a finite union of intervals of code points.  This module
gives the membership test that every property table of the library shares.
-/

namespace MarkedRoutes.Text

/-- Whether a code point lies in one of the closed intervals. -/
def inRanges (ranges : List (Nat × Nat)) (point : Nat) : Bool :=
  ranges.any fun range => range.1 ≤ point && point ≤ range.2

theorem inRanges_iff {ranges : List (Nat × Nat)} {point : Nat} :
    inRanges ranges point = true ↔ ∃ range ∈ ranges, range.1 ≤ point ∧ point ≤ range.2 := by
  simp [inRanges]

end MarkedRoutes.Text
