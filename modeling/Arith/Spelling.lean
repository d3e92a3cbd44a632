import Arith.Numeral
import Arith.Text.Blank
import Arith.Token

/-!
# Spellings

The ways in which tokens are written as source text, apart from how source text
is scanned: the texts of the tokens one after the other, with blanks before,
between and after them, and at least one blank between two numerals.

Main results:

- `Token.IsLexical`: the tokens that have a spelling at all.
- `Spelling`: tokens with the gaps around them, and the text that they make.
- `Spelling.Admissible`: gaps are blank, and numerals stand apart.
-/

namespace Arith

/-- A token that source text can spell: a numeral, or an operator with its own
glyph as text. -/
def Token.IsLexical (t : Token) : Prop :=
  (t.kind = .number ∧ Numeral.IsNumeral t.value.toList) ∨
    ∃ c, t.kind.glyph? = some c ∧ t.value = String.singleton c

/-- Tokens as they are laid out in a text: what stands before the first of them,
and each with what stands after it. -/
structure Spelling where
  lead : List Char
  items : List (Token × List Char)

namespace Spelling

/-- The tokens that are spelled. -/
def tokens (s : Spelling) : List Token :=
  s.items.map Prod.fst

/-- The text of a spelling. -/
def text (s : Spelling) : List Char :=
  s.lead ++ s.items.flatMap fun item => item.1.value.toList ++ item.2

/-- Whether there is something between any two numerals that follow each other. -/
def Separated : List (Token × List Char) → Prop
  | (t, gap) :: (u, after) :: rest =>
      (t.kind = .number → u.kind = .number → gap ≠ []) ∧ Separated ((u, after) :: rest)
  | _ => True

/-- Whether a text is made of blanks only. -/
def IsGap (cs : List Char) : Prop :=
  ∀ c ∈ cs, Text.isBlank c = true

/-- A spelling is admissible if its tokens can be spelled, its gaps are blank,
and its numerals stand apart. -/
structure Admissible (s : Spelling) : Prop where
  lead : IsGap s.lead
  gaps : ∀ item ∈ s.items, IsGap item.2
  lexical : ∀ t ∈ s.tokens, t.IsLexical
  separated : Separated s.items

end Spelling

end Arith
