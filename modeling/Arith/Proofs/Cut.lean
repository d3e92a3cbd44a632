import Arith.Production.Program
import Arith.Proofs.Stray

/-!
# Texts cut in two

A text may be cut anywhere but between two characters that numerals are made of: the two parts
are then scanned one after the other, whether they succeed or fail.  So no lexeme reaches across
such a cut, and no character is reported for what stands on the other side of it.

Main results:

- `CleanCut`: a cut that does not fall between two characters of numerals.
- `CleanCut.parted`, `CleanCut.stray`: neither a numeral nor a report reaches across.
- `Token.scan_append_of_ok`, `Token.scan_append_of_error`: the two ways in which the first part
  is scanned.
- `Token.scan_gap`: blanks before a text make no difference.
- `Token.scan_cleanCut`: a text is scanned part by part, and blanks at the cut make no difference.
-/

namespace Arith

/-- Whether a character is one of those that numerals are made of. -/
def Numeral.IsPart (c : Char) : Prop :=
  c.isDigit = true ∨ c = '.'

/-- A cut is clean unless there are characters of numerals on both sides of it. -/
def CleanCut (before after : List Char) : Prop :=
  ¬ ((∃ c ∈ before.getLast?, Numeral.IsPart c) ∧ ∃ d ∈ after.head?, Numeral.IsPart d)

namespace CleanCut

variable {before after : List Char}

/-- After a character of a numeral, a clean cut is followed by none. -/
theorem not_isPart {c : Char} (h : CleanCut before after) (hlast : c ∈ before.getLast?)
    (hc : Numeral.IsPart c) : ∀ d ∈ after.head?, ¬ Numeral.IsPart d := by
  intro d hd hpart
  exact h ⟨⟨c, hlast, hc⟩, d, hd, hpart⟩

/-- A cut before a blank is clean. -/
theorem of_blank {c : Char} (hc : Text.isBlank c = true) : CleanCut before (c :: after) := by
  rintro ⟨-, d, hd, hpart⟩
  have hcd : c = d := by simpa using hd
  subst hcd
  rcases Spelling.blank_apart hc with ⟨hdigit, hpoint⟩
  rcases hpart with hpart | hpart
  · rw [hdigit] at hpart
    contradiction
  · exact hpoint hpart

/-- A text that ends with a numeral ends with a character of one. -/
theorem exists_isPart {n : List Char} (hn : Numeral.IsNumeral n) (hsuffix : n <:+ before) :
    ∃ c ∈ before.getLast?, Numeral.IsPart c := by
  rcases hsuffix with ⟨front, rfl⟩
  rcases hn.exists_cons with ⟨d, ds, hcons, -⟩
  have hne : n ≠ [] := by simp [hcons]
  refine ⟨n.getLast hne, ?_, hn.isDigit_or_point _ (List.getLast_mem hne)⟩
  rw [List.getLast?_append, List.getLast?_eq_some_getLast hne]
  rfl

/-- The text after a clean cut leaves the numeral alone that the text before it ends with. -/
theorem parted {ts : List Token} (h : CleanCut before after)
    (hscan : Token.scan (String.ofList before) = .ok ts) : Parted before ts after := by
  rintro t ⟨hlast, hsuffix⟩
  rcases Token.mem_of_lastNumber? hlast with ⟨ht, hkind⟩
  have hnumeral := Token.isNumeral_of_scan hscan ht hkind
  rcases exists_isPart hnumeral hsuffix with ⟨c, hc, hpart⟩
  have hafter := h.not_isPart hc hpart
  constructor
  · intro d hd
    rw [← Bool.not_eq_true]
    intro hdigit
    exact hafter d hd (.inl hdigit)
  · right
    apply Numeral.fraction_eq_nil
    intro d hd hpoint
    exact hafter d hd (.inr hpoint)

/-- A character that is stray in the text before a clean cut is stray in the whole text. -/
theorem stray {front rest : List Char} {c : Char} (h : CleanCut (front ++ c :: rest) after)
    (hstray : Stray front c rest) : Stray front c (rest ++ after) := by
  rcases hstray with ⟨hblank, hdigit, hglyph, ts, hscan, hparted⟩
  refine ⟨hblank, hdigit, hglyph, ts, hscan, ?_⟩
  rintro ⟨hpoint, ⟨d, hd, hd'⟩, hends⟩
  cases rest with
  | nil =>
    -- The point would be the last character before the cut, and the digit the first after it.
    have hlast : c ∈ (front ++ [c]).getLast? := by simp
    exact h.not_isPart hlast (.inr hpoint) d hd (.inl hd')
  | cons x rest => exact hparted ⟨hpoint, ⟨d, hd, hd'⟩, hends⟩

end CleanCut

namespace Token

/-! ## Part by part -/

/-- Past a text that is scanned, the text after a clean cut makes the other tokens. -/
theorem scan_append_of_ok {before after : List Char} {ts : List Token}
    (h : CleanCut before after) (hscan : scan (String.ofList before) = .ok ts) :
    scan (String.ofList (before ++ after)) =
      (scan (String.ofList after)).map (ts.dropLast ++ ·) :=
  scan_append hscan (h.parted hscan)

/-- What is reported of the text before a clean cut is reported of the whole text. -/
theorem scan_append_of_error {before after : List Char} {g : Diagnostic}
    (h : CleanCut before after) (hscan : scan (String.ofList before) = .error g) :
    scan (String.ofList (before ++ after)) = .error g := by
  rcases exists_stray_of_scan hscan with ⟨front, c, rest, rfl, rfl, hstray⟩
  rw [List.append_assoc, List.cons_append]
  exact (h.stray hstray).scan_eq

/-- A text is scanned part by part at a clean cut. -/
theorem scan_append_eq {before after : List Char} (h : CleanCut before after) :
    scan (String.ofList (before ++ after)) = do
      let ts ← scan (String.ofList before)
      let us ← scan (String.ofList after)
      return ts.dropLast ++ us := by
  cases hscan : scan (String.ofList before) with
  | error g => exact scan_append_of_error h hscan
  | ok ts =>
    rw [scan_append_of_ok h hscan]
    cases scan (String.ofList after) <;> rfl

/-! ## Blanks at the cut -/

/-- Blanks before a text make no difference to it. -/
theorem scan_gap {gap cs : List Char} (hgap : Spelling.IsGap gap) :
    scan (String.ofList (gap ++ cs)) = scan (String.ofList cs) := by
  induction gap with
  | nil => rfl
  | cons c gap ih =>
    rw [List.cons_append, scan_blank (hgap c List.mem_cons_self)]
    apply ih
    intro d hd
    exact hgap d (List.mem_cons_of_mem c hd)

/-- Blanks at a clean cut make no difference to the text. -/
theorem scan_insert_gap {before gap after : List Char} (h : CleanCut before after)
    (hgap : Spelling.IsGap gap) :
    scan (String.ofList (before ++ (gap ++ after))) = scan (String.ofList (before ++ after)) := by
  have hcut : CleanCut before (gap ++ after) := by
    cases gap with
    | nil => exact h
    | cons c gap => exact .of_blank (hgap c List.mem_cons_self)
  rw [scan_append_eq hcut, scan_append_eq h, scan_gap hgap]

/-- Scanning is compositional at every clean cut.  The report of the first part is that of the
whole, otherwise the report of the second part is, and otherwise the tokens of both make those
of the whole, with the end sentinel of the first part left out.  So blanks may be put in or left
out at the cut: neither the tokens nor the program change, nor what is reported of the text. -/
theorem scan_cleanCut (a b : String) (h : CleanCut a.toList b.toList) :
    (scan (a ++ b) = do
      let ts ← scan a
      let us ← scan b
      return ts.dropLast ++ us) ∧
    ∀ gap : String, Spelling.IsGap gap.toList →
      scan (a ++ gap ++ b) = scan (a ++ b) ∧
        Program.ofSource (a ++ gap ++ b) = Program.ofSource (a ++ b) := by
  have hwhole : String.ofList (a.toList ++ b.toList) = a ++ b := by simp
  constructor
  · have hscan := scan_append_eq h
    rwa [hwhole, String.ofList_toList, String.ofList_toList] at hscan
  · intro gap hgap
    have hspaced : String.ofList (a.toList ++ (gap.toList ++ b.toList)) = a ++ gap ++ b := by
      simp [String.append_assoc]
    have hscan := scan_insert_gap h hgap
    rw [hspaced, hwhole] at hscan
    refine ⟨hscan, ?_⟩
    rw [Program.ofSource, Program.ofSource, hscan]

/-- A numeral that breaks off after its point is reported although a digit follows further on,
and a wide space may be put before an operator. -/
theorem scan_cleanCut_point :
    scan ("1." ++ " 5") = .error ⟨.unrecognisedToken ".", none⟩ ∧
      Program.ofSource ("12" ++ "\u3000" ++ "*3") = Program.ofSource ("12" ++ "*3") := by
  have hblank : CleanCut "1.".toList " 5".toList := CleanCut.of_blank (by decide)
  have hglyph : CleanCut "12".toList "*3".toList := by
    rintro ⟨-, d, hd, hpart⟩
    have hstar : '*' = d := by simpa using hd
    subst hstar
    revert hpart
    simp [Numeral.IsPart]
  have hstray : scan "1." = .error ⟨.unrecognisedToken ".", none⟩ := by decide +kernel
  constructor
  · rw [(scan_cleanCut "1." " 5" hblank).1, hstray]
    rfl
  · have hgap : Spelling.IsGap "\u3000".toList := by
      simp [Spelling.IsGap, Text.isBlank, Text.Ranges.has, Text.blankRanges]
    exact ((scan_cleanCut "12" "*3" hglyph).2 "\u3000" hgap).2

end Token

end Arith
