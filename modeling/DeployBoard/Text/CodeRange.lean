/-!
# `Text.CodeRange` — character classes as lists of code point ranges

A property of the character database is a list of closed ranges of code points in ascending order. The class
tables of this library (`Text.CaseTable`, `Text.WidthTable`, `Text.ClusterTable`, `Text.PrintableTable`) are
values of this one type, and `CodeRanges.has` is the only question asked of them.
-/

namespace DeployBoard.Text

/-- **A class of characters**: closed ranges of code points, ascending and disjoint. -/
abbrev CodeRanges := List (Nat × Nat)

/-- `c` lies in one of the ranges. -/
def CodeRanges.has (ranges : CodeRanges) (c : Char) : Bool :=
  ranges.any fun r => r.1 ≤ c.toNat && c.toNat ≤ r.2

/-- Membership, as a statement about code points. -/
theorem CodeRanges.has_iff {ranges : CodeRanges} {c : Char} :
    ranges.has c = true ↔ ∃ r ∈ ranges, r.1 ≤ c.toNat ∧ c.toNat ≤ r.2 := by
  simp [CodeRanges.has]

end DeployBoard.Text
