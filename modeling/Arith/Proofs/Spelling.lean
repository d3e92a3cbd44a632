import Arith.Proofs.Result
import Arith.Proofs.Scan
import Arith.Spelling

/-!
# Scanned texts are spelled texts

Scanning undoes spelling.  A spelling is taken apart from the front, one blank or
one token at a time, which is how a text is scanned, so that the two meet in one
induction on each side.

Main results:

- `Spelling.admissible_cons_iff`: when a token may stand before a spelling.
- `Spelling.Admissible.scan_text`: an admissible spelling scans to its tokens.
- `Spelling.exists_of_scan_eq_ok`: every text that scans has an admissible spelling.
- `Token.scan_eq_ok_iff_spelling`: the scanned texts are exactly the admissible
  spellings, each with its own tokens.
-/

namespace Arith

namespace Spelling

/-! ## Spellings from the front -/

/-- A spelling with one more character before it. -/
def indent (c : Char) (s : Spelling) : Spelling :=
  ⟨c :: s.lead, s.items⟩

/-- A spelling with one more token before it, and nothing before that. -/
def cons (t : Token) (s : Spelling) : Spelling :=
  ⟨[], (t, s.lead) :: s.items⟩

@[simp]
theorem tokens_indent (c : Char) (s : Spelling) : (s.indent c).tokens = s.tokens :=
  rfl

@[simp]
theorem text_indent (c : Char) (s : Spelling) : (s.indent c).text = c :: s.text :=
  rfl

@[simp]
theorem tokens_cons (t : Token) (s : Spelling) : (s.cons t).tokens = t :: s.tokens :=
  rfl

@[simp]
theorem text_cons (t : Token) (s : Spelling) :
    (s.cons t).text = t.value.toList ++ s.text := by
  simp [text, cons]

/-- Every spelling is built from the empty one by single characters and tokens put
before it. -/
theorem induction {motive : Spelling → Prop} (nil : motive ⟨[], []⟩)
    (indent : ∀ c s, motive s → motive (s.indent c))
    (cons : ∀ t s, motive s → motive (s.cons t)) (s : Spelling) : motive s := by
  rcases s with ⟨lead, items⟩
  have hlead : ∀ items, motive ⟨[], items⟩ → ∀ lead, motive ⟨lead, items⟩ := by
    intro items hitems lead
    induction lead with
    | nil => exact hitems
    | cons c lead ih => exact indent c ⟨lead, items⟩ ih
  refine hlead items ?_ lead
  induction items with
  | nil => exact nil
  | cons item items ih => exact cons item.1 ⟨item.2, items⟩ (hlead items ih item.2)

/-- Whether a spelling starts with something other than a numeral. -/
def StandsApart (s : Spelling) : Prop :=
  s.lead = [] → ∀ item ∈ s.items.head?, item.1.kind ≠ .number

/-- A character before a spelling has to be a blank. -/
theorem admissible_indent_iff {c : Char} {s : Spelling} :
    (s.indent c).Admissible ↔ Text.isBlank c = true ∧ s.Admissible := by
  constructor
  · intro h
    rcases h with ⟨hlead, hgaps, hlexical, hseparated⟩
    have hc : Text.isBlank c = true := hlead c List.mem_cons_self
    have hrest : IsGap s.lead := by
      intro d hd
      exact hlead d (List.mem_cons_of_mem c hd)
    exact ⟨hc, hrest, hgaps, hlexical, hseparated⟩
  · intro h
    rcases h with ⟨hc, hlead, hgaps, hlexical, hseparated⟩
    refine ⟨?_, hgaps, hlexical, hseparated⟩
    intro d hd
    rcases List.mem_cons.1 hd with rfl | hd
    · exact hc
    · exact hlead d hd

/-- Whether numerals stand apart is decided by the first token, what stands after
it, and the spelling that follows. -/
theorem separated_cons_iff {t : Token} {gap : List Char} {items : List (Token × List Char)} :
    Separated ((t, gap) :: items) ↔
      (t.kind = .number → StandsApart ⟨gap, items⟩) ∧ Separated items := by
  cases items with
  | nil => simp [Separated, StandsApart]
  | cons item items =>
    simp only [Separated, StandsApart, List.head?_cons, Option.mem_some_iff, forall_eq']
    constructor
    · intro h
      refine ⟨?_, h.2⟩
      intro ht hnil hu
      exact h.1 ht hu hnil
    · intro h
      refine ⟨?_, h.2⟩
      intro ht hu hnil
      exact h.1 ht hnil hu

/-- A token may stand before an admissible spelling if it can be spelled, and if it
is no numeral that runs into another one. -/
theorem admissible_cons_iff {t : Token} {s : Spelling} :
    (s.cons t).Admissible ↔
      t.IsLexical ∧ s.Admissible ∧ (t.kind = .number → s.StandsApart) := by
  constructor
  · intro h
    rcases h with ⟨-, hgaps, hlexical, hseparated⟩
    rcases separated_cons_iff.1 hseparated with ⟨hapart, hrest⟩
    have ht : t.IsLexical := hlexical t List.mem_cons_self
    refine ⟨ht, ⟨?_, ?_, ?_, hrest⟩, hapart⟩
    · exact hgaps (t, s.lead) List.mem_cons_self
    · intro item hitem
      exact hgaps item (List.mem_cons_of_mem _ hitem)
    · intro u hu
      exact hlexical u (List.mem_cons_of_mem t hu)
  · intro h
    rcases h with ⟨ht, ⟨hlead, hgaps, hlexical, hseparated⟩, hapart⟩
    have hnone : IsGap [] := by simp [IsGap]
    refine ⟨hnone, ?_, ?_, separated_cons_iff.2 ⟨hapart, hseparated⟩⟩
    · intro item hitem
      rcases List.mem_cons.1 hitem with rfl | hitem
      · exact hlead
      · exact hgaps item hitem
    · intro u hu
      rcases List.mem_cons.1 hu with rfl | hu
      · exact ht
      · exact hlexical u hu

/-! ## The first character of a spelling -/

/-- A blank is neither a digit nor a point. -/
theorem blank_apart {c : Char} (hc : Text.isBlank c = true) : c.isDigit = false ∧ c ≠ '.' := by
  constructor
  · cases hdigit : c.isDigit with
    | false => rfl
    | true =>
      rw [Text.isBlank_eq_false_of_isDigit hdigit] at hc
      contradiction
  · intro hpoint
    subst hpoint
    have hblank : Text.isBlank '.' = false := by decide
    rw [hblank] at hc
    contradiction

/-- The text of a token that can be spelled starts with a digit if the token is a
number, and with its glyph if it is an operator. -/
theorem head_value {t : Token} (ht : t.IsLexical) :
    ∃ c cs, t.value.toList = c :: cs ∧
      ((t.kind = .number ∧ c.isDigit = true) ∨
        (t.kind ≠ .number ∧ c.isDigit = false ∧ c ≠ '.')) := by
  rcases ht with ⟨hkind, hnumeral⟩ | ⟨c, hglyph, hvalue⟩
  · rcases hnumeral.exists_cons with ⟨c, cs, hvalue, hc⟩
    exact ⟨c, cs, hvalue, .inl ⟨hkind, hc⟩⟩
  · rcases Token.glyph_apart (Kind.ofGlyph?_eq_some_iff.2 hglyph) with ⟨-, hdigit, hpoint⟩
    refine ⟨c, [], by simp [hvalue], .inr ⟨?_, hdigit, hpoint⟩⟩
    intro hkind
    simp [hkind, Kind.glyph?] at hglyph

/-- A spelling that stands apart cannot extend a numeral before it. -/
theorem Admissible.head_text {s : Spelling} (h : s.Admissible) (hapart : s.StandsApart) :
    ∀ d ∈ s.text.head?, d.isDigit = false ∧ d ≠ '.' := by
  rcases s with ⟨_ | ⟨c, lead⟩, _ | ⟨⟨t, gap⟩, items⟩⟩
  · simp [text]
  · intro d hd
    rcases head_value (h.lexical t List.mem_cons_self) with ⟨c, cs, hvalue, hkind⟩
    have hnot : t.kind ≠ .number := hapart rfl (t, gap) rfl
    have hcd : c = d := by simpa [text, hvalue] using hd
    subst hcd
    rcases hkind with ⟨hnumber, -⟩ | ⟨-, hc⟩
    · exact absurd hnumber hnot
    · exact hc
  all_goals
    intro d hd
    have hcd : c = d := by simpa [text] using hd
    subst hcd
    exact blank_apart (h.lead c List.mem_cons_self)

/-- A spelling whose text starts with no digit stands apart. -/
theorem Admissible.standsApart {s : Spelling} (h : s.Admissible)
    (htext : Numeral.NoDigitHead s.text) : s.StandsApart := by
  rcases s with ⟨lead, items⟩
  intro hlead item hitem hnumber
  rcases item with ⟨t, gap⟩
  subst hlead
  have hitems : (t, gap) ∈ items := List.mem_of_mem_head? hitem
  rcases head_value (h.lexical t (List.mem_map_of_mem hitems)) with ⟨c, cs, hvalue, hkind⟩
  rcases hkind with ⟨-, hdigit⟩ | ⟨hnot, -⟩
  · have hhead : c ∈ (Spelling.text ⟨[], items⟩).head? := by
      cases items with
      | nil => simp at hitem
      | cons item items =>
        have hfirst : item = (t, gap) := by simpa using hitem
        subst hfirst
        simp [text, hvalue]
    rw [htext c hhead] at hdigit
    contradiction
  · exact hnot hnumber

end Spelling

/-- A token that can be spelled is scanned from the front of a text that does not
extend it. -/
theorem Token.scan_lexical {t : Token} {rest : List Char} (ht : t.IsLexical)
    (hrest : t.kind = .number → ∀ d ∈ rest.head?, d.isDigit = false ∧ d ≠ '.') :
    scan (String.ofList (t.value.toList ++ rest)) =
      (scan (String.ofList rest)).map (t :: ·) := by
  rcases ht with ⟨hkind, hnumeral⟩ | ⟨c, hglyph, hvalue⟩
  · have hdigit : Numeral.NoDigitHead rest := by
      intro d hd
      exact (hrest hkind d hd).1
    have hfraction : Numeral.fraction rest = [] := by
      apply Numeral.fraction_eq_nil
      intro d hd
      exact (hrest hkind d hd).2
    have htoken : Token.number t.value = t := by
      cases t
      simp_all [Token.number]
    rw [scan_numeral_append hnumeral hdigit (.inr hfraction), String.ofList_toList, htoken]
  · have htoken : (⟨t.kind, String.singleton c⟩ : Token) = t := by
      rw [← hvalue]
    rw [hvalue, String.toList_singleton, List.singleton_append,
      scan_glyph (Kind.ofGlyph?_eq_some_iff.2 hglyph), htoken]

namespace Spelling

/-! ## Scanning undoes spelling -/

/-- An admissible spelling scans to its tokens. -/
theorem Admissible.scan_text {s : Spelling} (h : s.Admissible) :
    Token.scan (String.ofList s.text) = .ok (s.tokens ++ [.eof]) := by
  induction s using Spelling.induction with
  | nil => exact Token.scan_nil
  | indent c s ih =>
    rcases admissible_indent_iff.1 h with ⟨hc, hs⟩
    rw [text_indent, Token.scan_blank hc, ih hs, tokens_indent]
  | cons t s ih =>
    rcases admissible_cons_iff.1 h with ⟨ht, hs, hapart⟩
    have hhead : t.kind = .number → ∀ d ∈ s.text.head?, d.isDigit = false ∧ d ≠ '.' := by
      intro hkind
      exact hs.head_text (hapart hkind)
    rw [text_cons, Token.scan_lexical ht hhead, ih hs, tokens_cons]
    rfl

/-- Every text that scans has an admissible spelling with the tokens found. -/
theorem exists_of_scan_eq_ok {cs : List Char} {ts : List Token}
    (h : Token.scan (String.ofList cs) = .ok ts) :
    ∃ s : Spelling, s.Admissible ∧ s.text = cs ∧ ts = s.tokens ++ [.eof] := by
  induction cs using Token.text_induction generalizing ts with
  | nil =>
    rw [Token.scan_nil] at h
    cases h
    have hempty : Admissible ⟨[], []⟩ :=
      ⟨by simp [IsGap], by simp, by simp [tokens], trivial⟩
    exact ⟨⟨[], []⟩, hempty, rfl, rfl⟩
  | blank c cs hc ih =>
    rw [Token.scan_blank hc] at h
    rcases ih h with ⟨s, hs, rfl, rfl⟩
    exact ⟨s.indent c, admissible_indent_iff.2 ⟨hc, hs⟩, rfl, rfl⟩
  | numeral c cs hc ih =>
    rw [Token.scan_numeral hc] at h
    rcases Result.map_eq_ok_iff.1 h with ⟨us, hus, rfl⟩
    rcases ih hus with ⟨s, hs, htext, rfl⟩
    have hapart : s.StandsApart := by
      apply hs.standsApart
      rw [htext]
      exact Numeral.noDigitHead_after (c :: cs)
    have hlexical : (Token.number (String.ofList (Numeral.leading (c :: cs)))).IsLexical := by
      left
      refine ⟨rfl, ?_⟩
      simpa using Numeral.isNumeral_leading hc cs
    refine ⟨s.cons (.number (String.ofList (Numeral.leading (c :: cs)))), ?_, ?_, rfl⟩
    · exact admissible_cons_iff.2 ⟨hlexical, hs, fun _ => hapart⟩
    · rw [text_cons, htext, Token.number_value, String.toList_ofList, Numeral.leading_append]
  | glyph c cs k hk ih =>
    rw [Token.scan_glyph hk] at h
    rcases Result.map_eq_ok_iff.1 h with ⟨us, hus, rfl⟩
    rcases ih hus with ⟨s, hs, rfl, rfl⟩
    have hglyph := Kind.ofGlyph?_eq_some_iff.1 hk
    refine ⟨s.cons ⟨k, String.singleton c⟩, ?_, by simp, rfl⟩
    apply admissible_cons_iff.2
    refine ⟨.inr ⟨c, hglyph, rfl⟩, hs, ?_⟩
    intro hnumber
    have hnumber' : k = .number := hnumber
    subst hnumber'
    simp [Kind.glyph?] at hglyph
  | stray c cs hblank hdigit hglyph =>
    rw [Token.scan_stray hblank hdigit hglyph] at h
    cases h

end Spelling

/-- The texts that scan are exactly the admissible spellings, and they scan to the
tokens that they spell, closed by the end sentinel. -/
theorem Token.scan_eq_ok_iff_spelling (source : String) (ts : List Token) :
    scan source = .ok ts ↔
      ∃ us : List Token, ts = us ++ [⟨.eof, "EOF"⟩] ∧
        ∃ s : Spelling, s.Admissible ∧ s.tokens = us ∧ String.ofList s.text = source := by
  constructor
  · intro h
    rw [← String.ofList_toList (s := source)] at h
    rcases Spelling.exists_of_scan_eq_ok h with ⟨s, hs, htext, hts⟩
    exact ⟨s.tokens, hts, s, hs, rfl, by rw [htext, String.ofList_toList]⟩
  · intro h
    rcases h with ⟨us, hts, s, hs, htokens, htext⟩
    rw [← htext, hts, ← htokens]
    exact hs.scan_text

end Arith
