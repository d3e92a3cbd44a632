import Arith.Proofs.Language
import Arith.Proofs.Stray
import Arith.Proofs.Verdict

/-!
# Where errors come from

A text that is no program is reported in one of two ways.  If it cannot be scanned, then the
character that stops the scan is reported, whatever is wrong before it.  Otherwise one of the
scanned tokens is reported, and as these are closed by their only end token, that is an
operator, or the end token after an operator.

Main results:

- `Token.exists_of_scan_eq_ok`: scanned tokens can be spelled, but for the end sentinel.
- `Diagnostic.Blames`, `Program.blames_of_ofTokens`: the token that is reported.
- `Program.ofSource_provenance`: every error of a source text, and what it comes from.
-/

namespace Arith

namespace Token

/-- Scanned tokens are tokens that can be spelled, closed by the end sentinel. -/
theorem exists_of_scan_eq_ok {source : String} {ts : List Token} (h : scan source = .ok ts) :
    ∃ us, ts = us ++ [.eof] ∧ ∀ t ∈ us, t.IsLexical := by
  rw [← String.ofList_toList (s := source)] at h
  rcases Spelling.exists_of_scan_eq_ok h with ⟨s, hs, -, hts⟩
  exact ⟨s.tokens, hts, hs.lexical⟩

/-- An operator that can be spelled has its own glyph as text. -/
theorem IsLexical.glyph {t : Token} (h : t.IsLexical) (hoperator : t.kind.isOperator = true) :
    ∃ c, t.kind.glyph? = some c ∧ t.value = String.singleton c := by
  rcases h with ⟨hnumber, -⟩ | hglyph
  · rw [hnumber] at hoperator
    cases hoperator
  · exact hglyph

/-- If no token before the end sentinel is an end token, then the sentinel is the only one. -/
theorem eq_eof_of_mem {us : List Token} {t : Token} (hus : ∀ u ∈ us, u.kind ≠ .eof)
    (ht : t ∈ us ++ [.eof]) (hkind : t.kind = .eof) : t = .eof := by
  rcases List.mem_append.1 ht with ht | ht
  · exact absurd hkind (hus t ht)
  · exact List.mem_singleton.1 ht

end Token

/-- A token that stands where an operator needs a number is one of the sequence. -/
theorem FirstLacking.mem {ts : List Token} {t : Token} (h : FirstLacking ts t) : t ∈ ts := by
  rcases h with ⟨before, o, after, rfl, -⟩
  simp

/-- A diagnostic blames a token of a sequence if it reports that token, with its text and its
kind, as the start of a statement or as no number.  The token is an operator with its own
glyph as text, or else the end sentinel, which is reported as no number, right after an
operator. -/
structure Diagnostic.Blames (g : Diagnostic) (ts : List Token) (t : Token) : Prop where
  mem : t ∈ ts
  report : g = ⟨.unknownOperand t.value t.kind, some t⟩ ∨
    g = ⟨.illegalExpression t.value t.kind, some t⟩
  culprit : (∃ c, t.kind.glyph? = some c ∧ t.value = String.singleton c) ∨
    t = .eof ∧ g = ⟨.illegalExpression t.value t.kind, some t⟩ ∧
      ∃ us o, ts = us ++ [o, .eof] ∧ o.kind.isOperator = true

/-- A diagnostic that blames a token is about neither a character nor a missing end. -/
theorem Diagnostic.Blames.fault_ne {g : Diagnostic} {ts : List Token} {t : Token}
    (h : g.Blames ts t) : (∀ text, g.fault ≠ .unrecognisedToken text) ∧ g.fault ≠ .missingEof := by
  rcases h.report with rfl | rfl <;> simp

namespace Program

/-- What is reported of tokens that can be spelled, once they are closed, blames one of them. -/
theorem blames_of_ofTokens {us : List Token} {g : Diagnostic} (hus : ∀ t ∈ us, t.IsLexical)
    (h : ofTokens (us ++ [.eof]) = .error g) : ∃ t, g.Blames (us ++ [.eof]) t := by
  have hkinds : ∀ t ∈ us, t.kind ≠ .eof := fun t ht => (hus t ht).kind_ne_eof
  have hclosed : closed (us ++ [.eof]) = true := closed_concat rfl us
  have hverdict := verdict_of_ofTokens hclosed rfl hkinds rfl
  rw [fault?_eq_some_iff.2 h] at hverdict
  cases hverdict with
  | @leading t ht hoperator =>
    have hmem : t ∈ us := List.mem_of_mem_head? ht
    exact ⟨t, List.mem_append_left _ hmem, .inl rfl, .inl ((hus t hmem).glyph hoperator)⟩
  | @lacking t _ hfirst =>
    refine ⟨t, hfirst.mem, .inr rfl, ?_⟩
    rcases hfirst.trailing_or_adjacent hkinds rfl with
      ⟨hkind, -, o, ho, hoperator⟩ | ⟨hoperator, before, o, after, rfl, -⟩
    · -- Only the sentinel has the kind of the reported token, which need not fit its text.
      right
      rcases List.getLast?_eq_some_iff.1 ho with ⟨front, rfl⟩
      exact ⟨Token.eq_eof_of_mem hkinds hfirst.mem hkind, rfl, front, o, by simp, hoperator⟩
    · left
      exact (hus t (by simp)).glyph hoperator

/-- What is reported of a text is what scanning reports, or blames one of the scanned tokens. -/
theorem scan_or_blames_of_ofSource {source : String} {g : Diagnostic}
    (h : ofSource source = .error g) :
    Token.scan source = .error g ∨ ∃ ts t, Token.scan source = .ok ts ∧ g.Blames ts t := by
  rcases Result.bind_eq_error_iff.1 h with hscan | ⟨ts, hscan, hread⟩
  · left
    exact hscan
  · right
    rcases Token.exists_of_scan_eq_ok hscan with ⟨us, rfl, hus⟩
    rcases blames_of_ofTokens hus hread with ⟨t, ht⟩
    exact ⟨us ++ [.eof], t, hscan, ht⟩

/-- Every error of a source text, and what it comes from.  No text lacks the end sentinel.  A
character is reported, without a token, exactly when the text cannot be scanned; what scanning
reports is reported of the text, whatever else is wrong with it.  In any other case one of the
scanned tokens is blamed. -/
theorem ofSource_provenance (source : String) :
    (∀ token, ofSource source ≠ .error ⟨.missingEof, token⟩) ∧
    ((∃ text, ofSource source = .error ⟨.unrecognisedToken text, none⟩) ↔
      ∃ g, Token.scan source = .error g) ∧
    (∀ g, Token.scan source = .error g → ofSource source = .error g) ∧
    ∀ g, ofSource source = .error g → (∀ text, g ≠ ⟨.unrecognisedToken text, none⟩) →
      ∃ ts t, Token.scan source = .ok ts ∧ g.Blames ts t := by
  have hprecedes : ∀ g, Token.scan source = .error g → ofSource source = .error g := by
    intro g hscan
    exact Result.bind_eq_error_iff.2 (.inl hscan)
  -- Scanning reports nothing but characters, and who blames a token reports none of them.
  refine ⟨?_, ⟨?_, ?_⟩, hprecedes, ?_⟩
  · intro token h
    rcases scan_or_blames_of_ofSource h with hscan | ⟨ts, t, -, hblames⟩
    · rcases Token.unrecognised_of_scan_eq_error hscan with ⟨text, htext⟩
      cases htext
    · exact hblames.fault_ne.2 rfl
  · intro h
    rcases h with ⟨text, herror⟩
    rcases scan_or_blames_of_ofSource herror with hscan | ⟨ts, t, -, hblames⟩
    · exact ⟨_, hscan⟩
    · exact absurd rfl (hblames.fault_ne.1 text)
  · intro h
    rcases h with ⟨g, hscan⟩
    rcases Token.unrecognised_of_scan_eq_error hscan with ⟨text, rfl⟩
    exact ⟨text, hprecedes _ hscan⟩
  · intro g herror hother
    rcases scan_or_blames_of_ofSource herror with hscan | hblames
    · rcases Token.unrecognised_of_scan_eq_error hscan with ⟨text, htext⟩
      exact absurd htext (hother text)
    · exact hblames

/-- A stray character is reported although an operator leads the text; without either, the end
sentinel is to blame. -/
theorem ofSource_stray_or_trailing :
    ofSource "* 2 + $" = .error ⟨.unrecognisedToken "$", none⟩ ∧
      ∃ ts t, Token.scan "2 +" = .ok ts ∧
        Diagnostic.Blames ⟨.illegalExpression "EOF" .eof, some .eof⟩ ts t := by
  have hstray : Token.scan "* 2 + $" = .error ⟨.unrecognisedToken "$", none⟩ := by
    decide +kernel
  have htrailing : ofSource "2 +" = .error ⟨.illegalExpression "EOF" .eof, some .eof⟩ := by
    decide +kernel
  constructor
  · exact (ofSource_provenance "* 2 + $").2.2.1 _ hstray
  · exact (ofSource_provenance "2 +").2.2.2 _ htrailing (by simp)

end Program

end Arith
