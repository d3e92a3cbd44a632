/-!
# Numerals

The written form of numbers: one or more ASCII digits, optionally followed by a
point and one or more digits.

Main results:

- `IsNumeral`: the shape of a numeral.
- `leading`: the longest numeral at the front of a text.
- `leading_append_after`: a text is its leading numeral and what comes after it.
-/

namespace Arith.Numeral

/-- A non-empty run of ASCII digits. -/
def IsDigits (cs : List Char) : Prop :=
  cs ≠ [] ∧ ∀ c ∈ cs, c.isDigit = true

/-- A numeral is a run of digits, or two of them with a point between. -/
def IsNumeral (cs : List Char) : Prop :=
  IsDigits cs ∨ ∃ whole part, IsDigits whole ∧ IsDigits part ∧ cs = whole ++ '.' :: part

/-- The fraction at the front of a text: a point and the digits after it, or
nothing if no digit follows the point. -/
def fraction : List Char → List Char
  | '.' :: cs =>
      match cs.takeWhile Char.isDigit with
      | [] => []
      | d :: ds => '.' :: d :: ds
  | _ => []

/-- The numeral at the front of a text: all the digits there, and the fraction
that follows them.  It is empty if the text starts with no digit. -/
def leading (cs : List Char) : List Char :=
  cs.takeWhile Char.isDigit ++ fraction (cs.dropWhile Char.isDigit)

/-- The fraction is a part of the text it is read from. -/
theorem fraction_append_drop (cs : List Char) :
    fraction cs ++ cs.drop (fraction cs).length = cs := by
  unfold fraction
  split
  · rename_i cs
    split
    · rfl
    · rename_i d ds h
      have hcs := List.takeWhile_append_dropWhile (p := Char.isDigit) (l := cs)
      rw [h] at hcs
      rw [← hcs]
      simp
  · rfl

/-- A text is its leading numeral and what comes after it. -/
theorem leading_append_after (cs : List Char) :
    leading cs ++ (cs.dropWhile Char.isDigit).drop
      (fraction (cs.dropWhile Char.isDigit)).length = cs := by
  rw [leading, List.append_assoc, fraction_append_drop, List.takeWhile_append_dropWhile]

/-- A text that starts with a digit has a leading numeral that starts with it. -/
theorem leading_cons {c : Char} (hc : c.isDigit = true) (cs : List Char) :
    leading (c :: cs) = c :: leading cs := by
  simp [leading, hc]

end Arith.Numeral
