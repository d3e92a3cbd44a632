/-!
# Ranges of code points

Sets of characters given by the ranges of code points they occupy.
-/

namespace Arith.Text

/-- A set of code points as a list of closed intervals. -/
abbrev Ranges := List (Nat × Nat)

/-- Whether some interval of the set holds the code point of a character. -/
def Ranges.has (ranges : Ranges) (c : Char) : Bool :=
  ranges.any fun range => range.1 ≤ c.toNat && c.toNat ≤ range.2

/-- A character belongs to the set exactly when an interval holds its code point. -/
theorem Ranges.has_iff {ranges : Ranges} {c : Char} :
    ranges.has c = true ↔ ∃ r ∈ ranges, r.1 ≤ c.toNat ∧ c.toNat ≤ r.2 := by
  simp [Ranges.has]

end Arith.Text
