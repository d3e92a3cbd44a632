import Arith.Proofs.Spelling

/-!
# Characters that start no lexeme

A text that cannot be scanned is scanned up to one character, and that is reported.  Which
one it is can be told from the text on both sides of it: what stands before it scans by
itself, and the character neither starts a lexeme nor divides a numeral.

Main results:

- `Token.lastNumber?`, `EndsInNumeral`: the numeral that a scanned text ends with.
- `Parted`: two texts in a row do not run into each other.
- `Token.scan_append`: two such texts in a row are scanned one after the other.
- `Stray`, `Stray.unique`: the one character of a text that is to be reported.
- `Token.scan_eq_error_iff_stray`: scanning reports that character, and nothing else.
-/

namespace Arith

/-! ## The numeral at the end of a text -/

namespace Token

/-- The last number among some tokens. -/
def lastNumber? (ts : List Token) : Option Token :=
  ts.reverse.find? fun t => t.kind = .number

/-- The last number of two runs of tokens is that of the second, if it has any. -/
theorem lastNumber?_append (us ts : List Token) :
    lastNumber? (us ++ ts) = (lastNumber? ts).or (lastNumber? us) := by
  unfold lastNumber?
  rw [List.reverse_append, List.find?_append]

/-- The last number is a number, and one of the tokens. -/
theorem mem_of_lastNumber? {t : Token} {ts : List Token} (h : t ∈ lastNumber? ts) :
    t ∈ ts ∧ t.kind = .number := by
  have hmem := List.mem_of_find?_eq_some h
  have hkind := List.find?_some h
  exact ⟨List.mem_reverse.1 hmem, by simpa using hkind⟩

/-- There is a last number where there is any. -/
theorem lastNumber?_ne_none {t : Token} {ts : List Token} (ht : t ∈ ts)
    (hkind : t.kind = .number) : lastNumber? ts ≠ none := by
  intro hnone
  have hnot := List.find?_eq_none.1 hnone t (List.mem_reverse.2 ht)
  simp [hkind] at hnot

/-- A number that is scanned is a numeral. -/
theorem isNumeral_of_scan {cs : List Char} {ts : List Token} {t : Token}
    (h : scan (String.ofList cs) = .ok ts) (ht : t ∈ ts) (hkind : t.kind = .number) :
    Numeral.IsNumeral t.value.toList := by
  rcases Spelling.exists_of_scan_eq_ok h with ⟨s, hs, -, rfl⟩
  rcases List.mem_append.1 ht with ht | ht
  · rcases hs.lexical t ht with ⟨-, hnumeral⟩ | ⟨c, hglyph, -⟩
    · exact hnumeral
    · simp [hkind, Kind.glyph?] at hglyph
  · rw [List.mem_singleton.1 ht] at hkind
    cases hkind

/-- A text with a digit is scanned to tokens with a number. -/
theorem lastNumber?_of_isDigit {cs : List Char} {ts : List Token} {d : Char}
    (h : scan (String.ofList cs) = .ok ts) (hd : d ∈ cs) (hdigit : d.isDigit = true) :
    lastNumber? ts ≠ none := by
  induction cs using lexeme_induction generalizing ts with
  | nil => simp at hd
  | blank c cs hc ih =>
    rw [scan_blank hc] at h
    rcases List.mem_cons.1 hd with rfl | hd
    · rw [(Spelling.blank_apart hc).1] at hdigit
      contradiction
    · exact ih h hd
  | numeral n cs hn hcs hpoint ih =>
    rw [scan_numeral_append hn hcs hpoint] at h
    rcases Result.map_eq_ok_iff.1 h with ⟨us, -, rfl⟩
    exact lastNumber?_ne_none List.mem_cons_self rfl
  | glyph c cs k hk ih =>
    rw [scan_glyph hk] at h
    rcases Result.map_eq_ok_iff.1 h with ⟨us, hus, rfl⟩
    rcases List.mem_cons.1 hd with rfl | hd
    · rw [(glyph_apart hk).2.1] at hdigit
      contradiction
    · have hrest := ih hus hd
      rw [← List.singleton_append, lastNumber?_append]
      simp [hrest]
  | stray c cs hblank hdigit' hglyph =>
    rw [scan_stray hblank hdigit' hglyph] at h
    cases h

/-- A text that is scanned starts with no point. -/
theorem head_ne_point {cs : List Char} {ts : List Token} (h : scan (String.ofList cs) = .ok ts) :
    ∀ c ∈ cs.head?, c ≠ '.' := by
  intro c hc hpoint
  subst hpoint
  cases cs with
  | nil => simp at hc
  | cons x cs =>
    have hx : x = '.' := by simpa using hc
    subst hx
    have hstray := scan_stray (c := '.') (by decide) (by decide) (by decide) cs
    rw [hstray] at h
    cases h

end Token

/-- A text that is scanned to given tokens ends with the last number among them. -/
def EndsInNumeral (before : List Char) (ts : List Token) (t : Token) : Prop :=
  t ∈ Token.lastNumber? ts ∧ t.value.toList <:+ before

/-- A text after a scanned one leaves the numeral alone that the scanned one ends with, be it
that it starts with no digit and no fraction, or that the numeral has a fraction already. -/
def Parted (before : List Char) (ts : List Token) (after : List Char) : Prop :=
  ∀ t, EndsInNumeral before ts t →
    Numeral.NoDigitHead after ∧ ('.' ∈ t.value.toList ∨ Numeral.fraction after = [])

/-- Where a text ends with a numeral, so does what is left of it after a character that no
numeral has. -/
theorem suffix_of_apart {n front rest : List Char} {x : Char} (hn : Numeral.IsNumeral n)
    (hdigit : x.isDigit = false) (hpoint : x ≠ '.') (h : n <:+ front ++ x :: rest) :
    n <:+ rest := by
  have hx : x ∉ n := by
    intro hmem
    rcases hn.isDigit_or_point x hmem with hx | hx
    · rw [hdigit] at hx
      contradiction
    · exact hpoint hx
  rcases h with ⟨us, hus⟩
  rcases List.append_eq_append_iff.1 hus with ⟨vs, -, hvs⟩ | ⟨vs, -, hvs⟩
  · simp [hvs] at hx
  · cases vs with
    | nil =>
      rw [List.nil_append] at hvs
      simp [← hvs] at hx
    | cons y vs =>
      rw [(List.cons.inj hvs).2]
      exact List.suffix_append vs n

namespace EndsInNumeral

variable {before : List Char} {ts : List Token} {t : Token}

/-- A text ends with the numeral that its last part ends with. -/
theorem append (h : EndsInNumeral before ts t) (front : List Char) (us : List Token) :
    EndsInNumeral (front ++ before) (us ++ ts) t := by
  refine ⟨?_, h.2.trans (List.suffix_append front before)⟩
  rw [Token.lastNumber?_append, h.1]
  rfl

/-- A text ends with the numeral that it ends with from some character on that no numeral
has. -/
theorem of_cons {x : Char} {us : List Token} (h : EndsInNumeral (x :: before) (us ++ ts) t)
    (hscan : Token.scan (String.ofList before) = .ok ts) (hus : Token.lastNumber? us = none)
    (hdigit : x.isDigit = false) (hpoint : x ≠ '.') : EndsInNumeral before ts t := by
  have hlast : t ∈ Token.lastNumber? ts := by
    have hboth := h.1
    rwa [Token.lastNumber?_append, hus, Option.or_none] at hboth
  rcases Token.mem_of_lastNumber? hlast with ⟨ht, hkind⟩
  have hnumeral := Token.isNumeral_of_scan hscan ht hkind
  have hsuffix : t.value.toList <:+ [] ++ x :: before := h.2
  exact ⟨hlast, suffix_of_apart hnumeral hdigit hpoint hsuffix⟩

end EndsInNumeral

/-! ## Texts in a row -/

namespace Token

/-- A text that is scanned has the end sentinel among its tokens at least. -/
theorem ne_nil_of_scan {cs : List Char} {ts : List Token}
    (h : scan (String.ofList cs) = .ok ts) : ts ≠ [] := by
  rcases Spelling.exists_of_scan_eq_ok h with ⟨s, -, -, rfl⟩
  simp

/-- A scanned text that starts with no digit does not extend a numeral before it, whatever
comes after; the empty text does not if what comes after does not. -/
theorem extends_none_of_scan {n mid after : List Char} {ts : List Token}
    (h : scan (String.ofList mid) = .ok ts) (hmid : Numeral.NoDigitHead mid)
    (hnil : mid = [] → Numeral.NoDigitHead after ∧ ('.' ∈ n ∨ Numeral.fraction after = [])) :
    Numeral.NoDigitHead (mid ++ after) ∧ ('.' ∈ n ∨ Numeral.fraction (mid ++ after) = []) := by
  cases mid with
  | nil => exact hnil rfl
  | cons x mid =>
    have hpoint : Numeral.fraction (x :: mid ++ after) = [] := by
      apply Numeral.fraction_eq_nil
      intro d hd
      exact head_ne_point h d hd
    exact ⟨hmid, .inr hpoint⟩

/-- Two texts in a row that do not run into each other are scanned one after the other. -/
theorem scan_append {before after : List Char} {ts : List Token}
    (h : scan (String.ofList before) = .ok ts) (hparted : Parted before ts after) :
    scan (String.ofList (before ++ after)) =
      (scan (String.ofList after)).map (ts.dropLast ++ ·) := by
  -- A token before others stays where it is when the end sentinel of these is dropped.
  have hcons : ∀ (t : Token) (us : List Token), us ≠ [] →
      ((scan (String.ofList after)).map (us.dropLast ++ ·)).map (t :: ·) =
        (scan (String.ofList after)).map ((t :: us).dropLast ++ ·) := by
    intro t us hus
    rw [List.dropLast_cons_of_ne_nil hus]
    cases scan (String.ofList after) <;> rfl
  induction before using lexeme_induction generalizing ts with
  | nil =>
    rw [scan_nil] at h
    cases h
    rw [List.nil_append]
    cases scan (String.ofList after) <;> rfl
  | blank c cs hc ih =>
    rw [scan_blank hc] at h
    rw [List.cons_append, scan_blank hc]
    apply ih h
    intro t ht
    exact hparted t (ht.append [c] [])
  | numeral n cs hn hcs hpoint ih =>
    rw [scan_numeral_append hn hcs hpoint] at h
    rcases Result.map_eq_ok_iff.1 h with ⟨us, hus, rfl⟩
    have hrest : Parted cs us after := by
      intro t ht
      exact hparted t (ht.append n [.number (String.ofList n)])
    have hnil : cs = [] → Numeral.NoDigitHead after ∧ ('.' ∈ n ∨ Numeral.fraction after = []) := by
      intro hcs'
      subst hcs'
      rw [scan_nil] at hus
      cases hus
      have hends : EndsInNumeral (n ++ []) [.number (String.ofList n), .eof]
          (.number (String.ofList n)) := ⟨rfl, by simp⟩
      simpa using hparted _ hends
    rcases extends_none_of_scan hus hcs hnil with ⟨hdigit', hpoint'⟩
    rw [List.append_assoc, scan_numeral_append hn hdigit' hpoint', ih hus hrest,
      hcons _ us (ne_nil_of_scan hus)]
  | glyph c cs k hk ih =>
    rw [scan_glyph hk] at h
    rcases Result.map_eq_ok_iff.1 h with ⟨us, hus, rfl⟩
    have hrest : Parted cs us after := by
      intro t ht
      exact hparted t (ht.append [c] [⟨k, String.singleton c⟩])
    rw [List.cons_append, scan_glyph hk, ih hus hrest, hcons _ us (ne_nil_of_scan hus)]
  | stray c cs hblank hdigit hglyph =>
    rw [scan_stray hblank hdigit hglyph] at h
    cases h

end Token

namespace Parted

variable {before after : List Char} {ts : List Token}

/-- Two texts in a row stay apart with a character before them that no numeral has. -/
theorem cons {x : Char} {us : List Token} (h : Parted before ts after)
    (hscan : Token.scan (String.ofList before) = .ok ts) (hus : Token.lastNumber? us = none)
    (hdigit : x.isDigit = false) (hpoint : x ≠ '.') : Parted (x :: before) (us ++ ts) after := by
  intro t ht
  exact h t (ht.of_cons hscan hus hdigit hpoint)

/-- Two texts in a row stay apart with a numeral before them that neither of them extends. -/
theorem numeral {n : List Char} (h : Parted before ts after)
    (hscan : Token.scan (String.ofList before) = .ok ts) (hn : Numeral.IsNumeral n)
    (hbefore : Numeral.NoDigitHead before)
    (hnil : before = [] → Numeral.NoDigitHead after ∧ ('.' ∈ n ∨ Numeral.fraction after = [])) :
    Parted (n ++ before) (.number (String.ofList n) :: ts) after := by
  intro t ht
  cases before with
  | nil =>
    rw [Token.scan_nil] at hscan
    cases hscan
    have hlast : Token.number (String.ofList n) = t := Option.some.inj ht.1
    subst hlast
    simpa using hnil rfl
  | cons x rest =>
    have hdigit : x.isDigit = false := hbefore x rfl
    have hpoint : x ≠ '.' := Token.head_ne_point hscan x rfl
    rw [EndsInNumeral, ← List.singleton_append, Token.lastNumber?_append] at ht
    cases hlast : Token.lastNumber? ts with
    | some u =>
      rw [hlast] at ht
      have htu : u = t := Option.some.inj ht.1
      subst htu
      rcases Token.mem_of_lastNumber? hlast with ⟨hu, hkind⟩
      have hnumeral := Token.isNumeral_of_scan hscan hu hkind
      have hsuffix := suffix_of_apart hnumeral hdigit hpoint ht.2
      exact h u ⟨hlast, hsuffix.trans (List.suffix_cons x rest)⟩
    | none =>
      -- The numeral itself would have to end the text, but then its digits make a later one.
      rw [hlast] at ht
      have htn : Token.number (String.ofList n) = t := Option.some.inj ht.1
      subst htn
      have hvalue : n <:+ n ++ x :: rest := by simpa using ht.2
      have hsuffix := suffix_of_apart hn hdigit hpoint hvalue
      rcases hn.exists_cons with ⟨d, ds, hcons, hd⟩
      have hmem : d ∈ n := by simp [hcons]
      have hlater := Token.lastNumber?_of_isDigit hscan
        (List.mem_cons_of_mem x (hsuffix.subset hmem)) hd
      exact absurd hlast hlater

/-- A character that is no digit stays apart from a text before it unless it is a point
before a digit and the text ends in a numeral without a fraction. -/
theorem cons_iff {c : Char} (hc : c.isDigit = false) :
    Parted before ts (c :: after) ↔
      ¬ (c = '.' ∧ (∃ d ∈ after.head?, d.isDigit = true) ∧
        ∃ t, EndsInNumeral before ts t ∧ '.' ∉ t.value.toList) := by
  constructor
  · intro h hextends
    rcases hextends with ⟨hpoint, hdigit, t, ht, hnot⟩
    rcases (h t ht).2 with hmem | hnil
    · exact hnot hmem
    · exact Numeral.fraction_cons_eq_nil_iff.1 hnil ⟨hpoint, hdigit⟩
  · intro h t ht
    have hhead : Numeral.NoDigitHead (c :: after) := by
      intro d hd
      have hcd : c = d := by simpa using hd
      rw [← hcd]
      exact hc
    refine ⟨hhead, ?_⟩
    by_cases hmem : '.' ∈ t.value.toList
    · left
      exact hmem
    · right
      apply Numeral.fraction_cons_eq_nil_iff.2
      intro hextends
      exact h ⟨hextends.1, hextends.2, t, ht, hmem⟩

end Parted

/-! ## Stray characters -/

/-- No operator is spelled by a character exactly when it is none of the four glyphs. -/
theorem Kind.ofGlyph?_eq_none_iff {c : Char} :
    ofGlyph? c = none ↔ c ∉ ['+', '-', '*', '/'] := by
  unfold ofGlyph?
  split <;> simp_all

/-- A character is stray between two texts: it starts no lexeme, the text before it is
scanned, and it does not give a fraction to the numeral that this ends with. -/
structure Stray (before : List Char) (c : Char) (after : List Char) : Prop where
  blank : Text.isBlank c = false
  digit : c.isDigit = false
  glyph : c ∉ ['+', '-', '*', '/']
  scans : ∃ ts, Token.scan (String.ofList before) = .ok ts ∧
    ¬ (c = '.' ∧ (∃ d ∈ after.head?, d.isDigit = true) ∧
      ∃ t, EndsInNumeral before ts t ∧ '.' ∉ t.value.toList)

/-- A stray character starts no lexeme, and the texts on both sides of it stay apart. -/
theorem stray_iff {before after : List Char} {c : Char} :
    Stray before c after ↔
      (Text.isBlank c = false ∧ c.isDigit = false ∧ Kind.ofGlyph? c = none) ∧
        ∃ ts, Token.scan (String.ofList before) = .ok ts ∧ Parted before ts (c :: after) := by
  rw [Kind.ofGlyph?_eq_none_iff]
  constructor
  · intro h
    rcases h with ⟨hblank, hdigit, hglyph, ts, hscan, hparted⟩
    exact ⟨⟨hblank, hdigit, hglyph⟩, ts, hscan, (Parted.cons_iff hdigit).2 hparted⟩
  · intro h
    rcases h with ⟨⟨hblank, hdigit, hglyph⟩, ts, hscan, hparted⟩
    exact ⟨hblank, hdigit, hglyph, ts, hscan, (Parted.cons_iff hdigit).1 hparted⟩

/-- A stray character is reported. -/
theorem Stray.scan_eq {before after : List Char} {c : Char} (h : Stray before c after) :
    Token.scan (String.ofList (before ++ c :: after)) = .error (.unrecognised c) := by
  rcases stray_iff.1 h with ⟨⟨hblank, hdigit, hglyph⟩, ts, hscan, hparted⟩
  rw [Token.scan_append hscan hparted, Token.scan_stray hblank hdigit hglyph]
  rfl

/-- A text that is not scanned has a stray character, and that is reported. -/
theorem exists_stray_of_scan {cs : List Char} {g : Diagnostic}
    (h : Token.scan (String.ofList cs) = .error g) :
    ∃ before c after, cs = before ++ c :: after ∧ g = .unrecognised c ∧ Stray before c after := by
  simp only [stray_iff]
  induction cs using Token.lexeme_induction with
  | nil =>
    rw [Token.scan_nil] at h
    cases h
  | blank x cs hx ih =>
    rw [Token.scan_blank hx] at h
    rcases ih h with ⟨before, c, after, rfl, hg, hc, ts, hscan, hparted⟩
    rcases Spelling.blank_apart hx with ⟨hdigit, hpoint⟩
    refine ⟨x :: before, c, after, rfl, hg, hc, ts, ?_, ?_⟩
    · rw [Token.scan_blank hx]
      exact hscan
    · have hcons : Parted (x :: before) ([] ++ ts) (c :: after) :=
        hparted.cons hscan rfl hdigit hpoint
      exact hcons
  | numeral n cs hn hcs hpoint ih =>
    rw [Token.scan_numeral_append hn hcs hpoint, Result.map_eq_error_iff] at h
    rcases ih h with ⟨before, c, after, rfl, hg, hc, ts, hscan, hparted⟩
    have hbefore : Numeral.NoDigitHead before := by
      cases before with
      | nil => simp [Numeral.NoDigitHead]
      | cons x before => exact hcs
    have hfraction := Numeral.fraction_eq_nil (Token.head_ne_point hscan)
    refine ⟨n ++ before, c, after, by simp, hg, hc, .number (String.ofList n) :: ts, ?_, ?_⟩
    · rw [Token.scan_numeral_append hn hbefore (.inr hfraction), hscan]
      rfl
    · apply hparted.numeral hscan hn hbefore
      intro hnil
      subst hnil
      exact ⟨hcs, hpoint⟩
  | glyph x cs k hk ih =>
    rw [Token.scan_glyph hk, Result.map_eq_error_iff] at h
    rcases ih h with ⟨before, c, after, rfl, hg, hc, ts, hscan, hparted⟩
    rcases Token.glyph_apart hk with ⟨-, hdigit, hpoint⟩
    have hnone : Token.lastNumber? [⟨k, String.singleton x⟩] = none := by
      have hglyph := Kind.ofGlyph?_eq_some_iff.1 hk
      cases k <;> simp_all [Token.lastNumber?, Kind.glyph?]
    refine ⟨x :: before, c, after, rfl, hg, hc, ⟨k, String.singleton x⟩ :: ts, ?_, ?_⟩
    · rw [Token.scan_glyph hk, hscan]
      rfl
    · exact hparted.cons hscan hnone hdigit hpoint
  | stray c cs hblank hdigit hglyph =>
    rw [Token.scan_stray hblank hdigit hglyph] at h
    cases h
    refine ⟨[], c, cs, rfl, rfl, ⟨hblank, hdigit, hglyph⟩, [.eof], Token.scan_nil, ?_⟩
    intro t ht
    cases ht.1

/-- A text that is not scanned is reported with a text at fault and without a token. -/
theorem Token.unrecognised_of_scan_eq_error {source : String} {g : Diagnostic}
    (h : scan source = .error g) : ∃ text, g = ⟨.unrecognisedToken text, none⟩ := by
  rw [← String.ofList_toList (s := source)] at h
  rcases exists_stray_of_scan h with ⟨before, c, after, -, hg, -⟩
  exact ⟨String.singleton c, hg⟩

namespace Stray

variable {before before' after after' : List Char} {c c' : Char}

/-- What stands further on than the next character has no part in whether a character is
stray. -/
theorem of_append (h : Stray before c (after ++ after')) : Stray before c after := by
  rcases h with ⟨hblank, hdigit, hglyph, ts, hscan, hparted⟩
  refine ⟨hblank, hdigit, hglyph, ts, hscan, ?_⟩
  intro hextends
  rcases hextends with ⟨hpoint, ⟨d, hd, hd'⟩, hends⟩
  refine hparted ⟨hpoint, ⟨d, ?_, hd'⟩, hends⟩
  rw [List.head?_append, Option.mem_def.1 hd]
  rfl

/-- No character is stray in a text that is scanned up to a later stray character. -/
theorem length_le (h : Stray before c after) (h' : Stray before' c' after')
    (heq : before ++ c :: after = before' ++ c' :: after') : before'.length ≤ before.length := by
  rcases List.append_eq_append_iff.1 heq with ⟨us, hus, hrest⟩ | ⟨us, hus, -⟩
  · cases us with
    | nil => simp [hus]
    | cons x us =>
      -- The text before the second one goes past the first one, which it cannot.
      rcases List.cons.inj hrest with ⟨rfl, rfl⟩
      have herror := h.of_append.scan_eq
      rcases h'.scans with ⟨ts, hscan, -⟩
      rw [hus, herror] at hscan
      cases hscan
  · rw [hus, List.length_append]
    omega

/-- There is one stray character in a text at most. -/
theorem unique (h : Stray before c after) (h' : Stray before' c' after')
    (heq : before ++ c :: after = before' ++ c' :: after') :
    before = before' ∧ c = c' ∧ after = after' := by
  have hlength : before.length = before'.length :=
    Nat.le_antisymm (h'.length_le h heq.symm) (h.length_le h' heq)
  rcases List.append_inj heq hlength with ⟨hbefore, hrest⟩
  exact ⟨hbefore, (List.cons.inj hrest).1, (List.cons.inj hrest).2⟩

end Stray

/-- Scanning fails exactly at a stray character.  A text is reported with a text at fault, and
without a token, exactly when the latter is a stray character of it: one that is no blank, no
digit and no glyph, after a text that is scanned, and not the point that gives a fraction to
the numeral at the end of that.  There is one such character at most, and scanning fails in no
other way. -/
theorem Token.scan_eq_error_iff_stray (source : String) :
    (∀ text : String, scan source = .error ⟨.unrecognisedToken text, none⟩ ↔
      ∃ before c after, text = String.singleton c ∧ source.toList = before ++ c :: after ∧
        Stray before c after) ∧
    (∀ before c after before' c' after',
      source.toList = before ++ c :: after → Stray before c after →
        source.toList = before' ++ c' :: after' → Stray before' c' after' →
          before = before' ∧ c = c' ∧ after = after') ∧
    ∀ g, scan source = .error g → ∃ text, g = ⟨.unrecognisedToken text, none⟩ := by
  have hsource : String.ofList source.toList = source := String.ofList_toList
  refine ⟨?_, ?_, ?_⟩
  · intro text
    constructor
    · intro h
      rw [← hsource] at h
      rcases exists_stray_of_scan h with ⟨before, c, after, hsplit, hg, hstray⟩
      have htext : text = String.singleton c := by simpa [Diagnostic.unrecognised] using hg
      exact ⟨before, c, after, htext, hsplit, hstray⟩
    · intro h
      rcases h with ⟨before, c, after, htext, hsplit, hstray⟩
      rw [← hsource, hsplit, htext]
      exact hstray.scan_eq
  · intro before c after before' c' after' hsplit hstray hsplit' hstray'
    exact hstray.unique hstray' (hsplit.symm.trans hsplit')
  · intro g h
    exact unrecognised_of_scan_eq_error h

/-- A numeral takes one fraction: the point after it is reported, the one in it is not. -/
theorem Token.scan_second_point :
    Stray ['1', '.', '2'] '.' ['3'] ∧ scan "1.2.3" = .error ⟨.unrecognisedToken ".", none⟩ ∧
      ¬ Stray ['1'] '.' ['2', '.', '3'] := by
  have hscan : scan "1.2" = .ok [.number "1.2", .eof] := by decide +kernel
  have hstray : Stray ['1', '.', '2'] '.' ['3'] := by
    refine ⟨by decide, by decide, by decide, _, hscan, ?_⟩
    intro hextends
    rcases hextends with ⟨-, -, t, ht, hnot⟩
    have hlast : Token.number "1.2" = t := Option.some.inj ht.1
    subst hlast
    exact hnot (by decide)
  rcases scan_eq_error_iff_stray "1.2.3" with ⟨hreported, hunique, -⟩
  refine ⟨hstray, (hreported ".").2 ⟨_, _, _, rfl, rfl, hstray⟩, ?_⟩
  intro hfirst
  have hlength := (hunique _ _ _ _ _ _ rfl hstray rfl hfirst).1
  simp at hlength

end Arith
