import Arith.Proofs.Numeral
import Arith.Scanner

/-!
# Scanning, character by character

What the scanner makes of a text, said without the scanner: a blank at the front is
passed over, a numeral or a glyph at the front makes one token, and any other
character is reported.  These equations and the induction that goes with them are
all that the theory of scanned texts needs.

Main results:

- `Scanner.run_eq_map`: tokens found earlier stand before those still to be found.
- `Token.scan_nil`, `Token.scan_blank`, `Token.scan_numeral`, `Token.scan_glyph`,
  `Token.scan_stray`: the equations of scanning.
- `Token.text_induction`, `Token.lexeme_induction`: induction over texts along these
  equations.
-/

namespace Arith

namespace Scanner

/-! ## One lexeme after another -/

/-- At the end of the text the tokens found are closed. -/
theorem run_of_rest_eq_nil {s : Scanner} (hrest : s.rest = []) :
    s.run = .ok (s.found.reverse ++ [.eof]) := by
  have hend : s.atEnd = true := by simp [atEnd, hrest]
  rw [run, dif_pos hend]
  simp [push]

/-- A step reports the character that starts no lexeme. -/
theorem step_of_leading?_eq_none {s : Scanner} {c : Char} {cs : List Char}
    (hrest : s.rest = c :: cs) (hlead : Lexeme.leading? (c :: cs) = none) :
    s.step = .error (.unrecognised c) := by
  simp [step, hrest, hlead]

/-- A step takes the lexeme at the position. -/
theorem step_of_leading?_eq_some {s : Scanner} {c : Char} {cs : List Char} {l : Lexeme}
    (hrest : s.rest = c :: cs) (hlead : Lexeme.leading? (c :: cs) = some l) :
    s.step = .ok (s.take l) := by
  simp [step, hrest, hlead]

/-- A character that starts no lexeme is reported. -/
theorem run_of_leading?_eq_none {s : Scanner} {c : Char} {cs : List Char}
    (hrest : s.rest = c :: cs) (hlead : Lexeme.leading? (c :: cs) = none) :
    s.run = .error (.unrecognised c) := by
  have hstep := step_of_leading?_eq_none hrest hlead
  have hopen : ¬ s.atEnd = true := by simp [atEnd, hrest]
  rw [run, dif_neg hopen]
  split <;> simp_all

/-- A lexeme at the position is taken. -/
theorem run_of_leading?_eq_some {s : Scanner} {c : Char} {cs : List Char} {l : Lexeme}
    (hrest : s.rest = c :: cs) (hlead : Lexeme.leading? (c :: cs) = some l) :
    s.run = (s.take l).run := by
  have hstep := step_of_leading?_eq_some hrest hlead
  have hopen : ¬ s.atEnd = true := by simp [atEnd, hrest]
  conv => lhs; rw [run, dif_neg hopen]
  split <;> simp_all

/-- The token of a lexeme is found when it is taken. -/
theorem take_found (s : Scanner) (l : Lexeme) :
    (s.take l).found = l.token?.toList ++ s.found := by
  unfold take
  cases l.token? <;> rfl

/-- The position moves by the bytes of the lexeme that is taken. -/
theorem take_offset (s : Scanner) (l : Lexeme) :
    (s.take l).offset = s.offset + Text.byteLength l.text := by
  unfold take
  cases l.token? <;> rfl

/-- Tokens found earlier stand before those still to be found, and make no
difference to them. -/
theorem run_eq_map {s t : Scanner} {older : List Token} (hs : s.overshoot = 0)
    (ht : t.overshoot = 0) (hrest : s.rest = t.rest) (hfound : s.found = t.found ++ older) :
    s.run = t.run.map (older.reverse ++ ·) := by
  generalize hn : t.rest.length = n
  induction n using Nat.strongRecOn generalizing s t with
  | ind n ih =>
    cases hcs : t.rest with
    | nil =>
      rw [run_of_rest_eq_nil (hrest.trans hcs), run_of_rest_eq_nil hcs, hfound]
      simp [Except.map]
    | cons c cs =>
      cases hlead : Lexeme.leading? (c :: cs) with
      | none =>
        rw [run_of_leading?_eq_none (hrest.trans hcs) hlead, run_of_leading?_eq_none hcs hlead]
        rfl
      | some l =>
        rcases Lexeme.leading?_eq_some hlead with ⟨more, rest, htext, hmore⟩
        have hsplit : c :: cs = l.text ++ rest := by rw [htext, hmore, List.cons_append]
        have hsTake := take_eq_of_rest_eq hs ((hrest.trans hcs).trans hsplit)
        have htTake := take_eq_of_rest_eq ht (hcs.trans hsplit)
        rw [run_of_leading?_eq_some (hrest.trans hcs) hlead, run_of_leading?_eq_some hcs hlead]
        refine ih (t.take l).rest.length ?_ hsTake.2 htTake.2 (hsTake.1.trans htTake.1.symm) ?_ rfl
        · rw [htTake.1, ← hn, hcs, hmore, List.length_cons, List.length_append]
          omega
        · rw [take_found, take_found, hfound, List.append_assoc]

end Scanner

namespace Token

/-! ## The equations of scanning -/

/-- The empty text has the end sentinel as its only token. -/
theorem scan_nil : scan (String.ofList []) = .ok [.eof] := by
  have hrest : (Scanner.ofSource (String.ofList [])).rest = [] := by
    simp [Scanner.ofSource]
  rw [scan, Scanner.run_of_rest_eq_nil hrest]
  rfl

/-- The lexeme at the front of a text makes the first token, if it makes one, and
the text after it makes the others. -/
theorem scan_of_leading?_eq_some {c : Char} {cs rest : List Char} {l : Lexeme}
    (hlead : Lexeme.leading? (c :: cs) = some l) (hsplit : c :: cs = l.text ++ rest) :
    scan (String.ofList (c :: cs)) =
      (scan (String.ofList rest)).map (l.token?.toList ++ ·) := by
  have hstart : (Scanner.ofSource (String.ofList (c :: cs))).rest = c :: cs := by
    simp [Scanner.ofSource]
  have htake := Scanner.take_eq_of_rest_eq (s := Scanner.ofSource (String.ofList (c :: cs)))
    rfl (hstart.trans hsplit)
  have hrest : ((Scanner.ofSource (String.ofList (c :: cs))).take l).rest =
      (Scanner.ofSource (String.ofList rest)).rest := by
    rw [htake.1]
    simp [Scanner.ofSource]
  have hfound : ((Scanner.ofSource (String.ofList (c :: cs))).take l).found =
      (Scanner.ofSource (String.ofList rest)).found ++ l.token?.toList := by
    rw [Scanner.take_found]
    simp [Scanner.ofSource]
  rw [scan, Scanner.run_of_leading?_eq_some hstart hlead,
    Scanner.run_eq_map htake.2 rfl hrest hfound]
  cases l.token? <;> rfl

/-- All the blanks at the front of a text are passed over at once. -/
theorem scan_blanks {c : Char} (hc : Text.isBlank c = true) (cs : List Char) :
    scan (String.ofList (c :: cs)) = scan (String.ofList (cs.dropWhile Text.isBlank)) := by
  have hlead : Lexeme.leading? (c :: cs) = some ⟨none, (c :: cs).takeWhile Text.isBlank⟩ := by
    simp [Lexeme.leading?, hc]
  have hsplit : c :: cs = (c :: cs).takeWhile Text.isBlank ++ cs.dropWhile Text.isBlank := by
    simp [hc]
  rw [scan_of_leading?_eq_some hlead hsplit]
  cases scan (String.ofList (cs.dropWhile Text.isBlank)) <;> rfl

/-- A blank at the front of a text is passed over. -/
theorem scan_blank {c : Char} (hc : Text.isBlank c = true) (cs : List Char) :
    scan (String.ofList (c :: cs)) = scan (String.ofList cs) := by
  rw [scan_blanks hc]
  cases cs with
  | nil => rfl
  | cons d ds =>
    by_cases hd : Text.isBlank d = true
    · rw [scan_blanks hd, List.dropWhile_cons_of_pos hd]
    · rw [List.dropWhile_cons_of_neg hd]

/-- A digit at the front of a text starts a numeral, which makes one token. -/
theorem scan_numeral {c : Char} (hc : c.isDigit = true) (cs : List Char) :
    scan (String.ofList (c :: cs)) =
      (scan (String.ofList (Numeral.after (c :: cs)))).map
        (Token.number (String.ofList (Numeral.leading (c :: cs))) :: ·) := by
  have hlead : Lexeme.leading? (c :: cs) =
      some ⟨some .number, Numeral.leading (c :: cs)⟩ := by
    simp [Lexeme.leading?, Text.isBlank_eq_false_of_isDigit hc, hc]
  rw [scan_of_leading?_eq_some hlead (Numeral.leading_append (c :: cs)).symm]
  rfl

/-- A numeral before a text that does not extend it makes one token. -/
theorem scan_numeral_append {n rest : List Char} (hn : Numeral.IsNumeral n)
    (hrest : Numeral.NoDigitHead rest) (hpoint : '.' ∈ n ∨ Numeral.fraction rest = []) :
    scan (String.ofList (n ++ rest)) =
      (scan (String.ofList rest)).map (Token.number (String.ofList n) :: ·) := by
  have hleading := Numeral.leading_append_eq hn hrest hpoint
  have hafter := Numeral.after_append_eq hn hrest hpoint
  rcases hn.exists_cons with ⟨c, cs, hcons, hc⟩
  rw [hcons, List.cons_append] at hleading hafter ⊢
  rw [scan_numeral hc, hleading, hafter]

/-- A glyph is neither a blank nor a digit nor a point. -/
theorem glyph_apart {c : Char} {k : Kind} (hk : Kind.ofGlyph? c = some k) :
    Text.isBlank c = false ∧ c.isDigit = false ∧ c ≠ '.' := by
  have hc := Kind.ofGlyph?_eq_some_iff.1 hk
  cases k <;> simp [Kind.glyph?] at hc <;> subst hc <;> decide

/-- A glyph at the front of a text makes one token. -/
theorem scan_glyph {c : Char} {k : Kind} (hk : Kind.ofGlyph? c = some k) (cs : List Char) :
    scan (String.ofList (c :: cs)) =
      (scan (String.ofList cs)).map (⟨k, String.singleton c⟩ :: ·) := by
  obtain ⟨hblank, hdigit, -⟩ := glyph_apart hk
  have hlead : Lexeme.leading? (c :: cs) = some ⟨some k, [c]⟩ := by
    simp [Lexeme.leading?, hblank, hdigit, hk]
  have hsplit : c :: cs = [c] ++ cs := rfl
  rw [scan_of_leading?_eq_some hlead hsplit, String.singleton_eq_ofList]
  rfl

/-- Any other character at the front of a text is reported. -/
theorem scan_stray {c : Char} (hblank : Text.isBlank c = false) (hdigit : c.isDigit = false)
    (hglyph : Kind.ofGlyph? c = none) (cs : List Char) :
    scan (String.ofList (c :: cs)) = .error (.unrecognised c) := by
  have hlead : Lexeme.leading? (c :: cs) = none := by
    simp [Lexeme.leading?, hblank, hdigit, hglyph]
  have hstart : (Scanner.ofSource (String.ofList (c :: cs))).rest = c :: cs := by
    simp [Scanner.ofSource]
  rw [scan]
  exact Scanner.run_of_leading?_eq_none hstart hlead

/-! ## Induction along the equations -/

/-- Induction over texts as they are scanned: a property holds of every text if it
holds of the empty one, is kept by a blank, a numeral and a glyph put before a text
that has it, and holds of every text that starts with any other character. -/
theorem text_induction {motive : List Char → Prop} (nil : motive [])
    (blank : ∀ c cs, Text.isBlank c = true → motive cs → motive (c :: cs))
    (numeral : ∀ c cs, c.isDigit = true → motive (Numeral.after (c :: cs)) → motive (c :: cs))
    (glyph : ∀ c cs k, Kind.ofGlyph? c = some k → motive cs → motive (c :: cs))
    (stray : ∀ c cs, Text.isBlank c = false → c.isDigit = false → Kind.ofGlyph? c = none →
      motive (c :: cs))
    (cs : List Char) : motive cs := by
  -- A numeral may be long, so the recursion is on the length and not on the list.
  generalize hn : cs.length = n
  induction n using Nat.strongRecOn generalizing cs with
  | ind n ih =>
    cases cs with
    | nil => exact nil
    | cons c cs =>
      subst hn
      have hshort : motive cs := by
        apply ih cs.length
        · rw [List.length_cons]
          omega
        · rfl
      by_cases hblank : Text.isBlank c = true
      · exact blank c cs hblank hshort
      · by_cases hdigit : c.isDigit = true
        · have hlength := congrArg List.length (Numeral.leading_append (c :: cs))
          rw [Numeral.leading_cons hdigit, List.length_append, List.length_cons] at hlength
          apply numeral c cs hdigit
          apply ih (Numeral.after (c :: cs)).length
          · omega
          · rfl
        · cases hglyph : Kind.ofGlyph? c with
          | none =>
            have hblank' : Text.isBlank c = false := by simpa using hblank
            have hdigit' : c.isDigit = false := by simpa using hdigit
            exact stray c cs hblank' hdigit' hglyph
          | some k => exact glyph c cs k hglyph hshort

/-- The same induction with whole numerals, each put before a text that does not extend
it. -/
theorem lexeme_induction {motive : List Char → Prop} (nil : motive [])
    (blank : ∀ c cs, Text.isBlank c = true → motive cs → motive (c :: cs))
    (numeral : ∀ n cs, Numeral.IsNumeral n → Numeral.NoDigitHead cs →
      ('.' ∈ n ∨ Numeral.fraction cs = []) → motive cs → motive (n ++ cs))
    (glyph : ∀ c cs k, Kind.ofGlyph? c = some k → motive cs → motive (c :: cs))
    (stray : ∀ c cs, Text.isBlank c = false → c.isDigit = false → Kind.ofGlyph? c = none →
      motive (c :: cs))
    (cs : List Char) : motive cs := by
  induction cs using text_induction with
  | nil => exact nil
  | blank c cs hc ih => exact blank c cs hc ih
  | numeral c cs hc ih =>
    rw [← Numeral.leading_append (c :: cs)]
    exact numeral _ _ (Numeral.isNumeral_leading hc cs) (Numeral.noDigitHead_after (c :: cs))
      (Numeral.point_or_fraction_after (c :: cs)) ih
  | glyph c cs k hk ih => exact glyph c cs k hk ih
  | stray c cs hblank hdigit hglyph => exact stray c cs hblank hdigit hglyph

end Token

end Arith
