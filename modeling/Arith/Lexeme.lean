import Arith.Numeral
import Arith.Text.Blank
import Arith.Token

/-!
# Lexemes

The pieces into which source text falls: runs of blanks, numerals and operator
glyphs, each as long as it can be.

Main results:

- `Lexeme.leading?`: the lexeme at the front of a text.
- `Lexeme.leading?_eq_some`: a lexeme is a non-empty piece of the text it is
  read from.
-/

namespace Arith

/-- A piece of source text.  Blanks have no kind and make no token. -/
structure Lexeme where
  kind? : Option Kind
  text : List Char

namespace Lexeme

/-- The token that a lexeme makes, if it makes one. -/
def token? (l : Lexeme) : Option Token :=
  l.kind?.map fun kind => ⟨kind, String.ofList l.text⟩

/-- The lexeme at the front of a text: all the blanks there, the longest
numeral, or one operator glyph.  There is none at the end of the text and none
before a character that starts no lexeme. -/
def leading? : List Char → Option Lexeme
  | [] => none
  | c :: cs =>
      if Text.isBlank c then
        some ⟨none, (c :: cs).takeWhile Text.isBlank⟩
      else if c.isDigit then
        some ⟨some .number, Numeral.leading (c :: cs)⟩
      else
        (Kind.ofGlyph? c).map fun kind => ⟨some kind, [c]⟩

/-- A lexeme starts with the first character of the text it is read from, and
the text goes on with the rest of it. -/
theorem leading?_eq_some {c : Char} {cs : List Char} {l : Lexeme}
    (h : leading? (c :: cs) = some l) :
    ∃ more rest, l.text = c :: more ∧ cs = more ++ rest := by
  simp only [leading?] at h
  split at h
  · rename_i hblank
    cases h
    exact ⟨cs.takeWhile Text.isBlank, cs.dropWhile Text.isBlank, by simp [hblank],
      List.takeWhile_append_dropWhile.symm⟩
  · split at h
    · rename_i hdigit
      cases h
      exact ⟨Numeral.leading cs, _, Numeral.leading_cons hdigit cs,
        (Numeral.leading_append_after cs).symm⟩
    · obtain ⟨kind, _, rfl⟩ := Option.map_eq_some_iff.1 h
      exact ⟨[], cs, rfl, rfl⟩

end Lexeme

end Arith
