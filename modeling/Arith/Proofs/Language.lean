import Arith.Proofs.Derivation
import Arith.Proofs.Precedence
import Arith.Proofs.Spelling

/-!
# The language of source texts

Which texts are programs, and of which program: scanning and reading together undo
the writing of a program, its trees from left to right and its tokens with any
admissible gaps around them.

Main results:

- `Expr.IsLexical`: the trees whose tokens can be spelled.
- `Expr.mem_tokens_iff`: the tokens of a tree are its literals and its operators.
- `Spelling.Spaced`: gaps are blank and numerals stand apart, whatever is spelled.
- `Program.ofSource_of_spelling`, `Program.spelling_of_ofSource`: the two directions.
- `Program.ofSource_eq_ok_iff_spelling`: the language of the program.
-/

namespace Arith

namespace Expr

/-- The literals of a tree are numerals, and its operators have their own glyphs as
text. -/
def IsLexical (e : Expr) : Prop :=
  (∀ value ∈ e.literals, Numeral.IsNumeral value.toList) ∧
    ∀ o ∈ e.operators, ∃ c, o.kind.glyph? = some c ∧ o.value = String.singleton c

/-- The tokens of a tree are its literals and its operators. -/
theorem mem_tokens_iff {e : Expr} {t : Token} :
    t ∈ e.tokens ↔ (∃ value ∈ e.literals, t = .number value) ∨ t ∈ e.operators := by
  induction e with
  | literal value => simp [tokens, literals, operators]
  | binary left operator right ihl ihr =>
    simp only [tokens, literals, operators, List.mem_append, List.mem_cons, ihl, ihr]
    constructor
    · intro h
      rcases h with (⟨value, hvalue, ht⟩ | ht) | ht | ⟨value, hvalue, ht⟩ | ht
      · exact .inl ⟨value, .inl hvalue, ht⟩
      · exact .inr (.inl ht)
      · exact .inr (.inr (.inl ht))
      · exact .inl ⟨value, .inr hvalue, ht⟩
      · exact .inr (.inr (.inr ht))
    · intro h
      rcases h with ⟨value, hvalue | hvalue, ht⟩ | ht | ht | ht
      · exact .inl (.inl ⟨value, hvalue, ht⟩)
      · exact .inr (.inr (.inl ⟨value, hvalue, ht⟩))
      · exact .inl (.inr ht)
      · exact .inr (.inl ht)
      · exact .inr (.inr (.inr ht))

/-- The tokens of such a tree can be spelled. -/
theorem IsLexical.tokens {e : Expr} (h : e.IsLexical) : ∀ t ∈ e.tokens, t.IsLexical := by
  intro t ht
  rcases mem_tokens_iff.1 ht with ⟨value, hvalue, hnumber⟩ | ho
  · left
    subst hnumber
    exact ⟨rfl, h.1 value hvalue⟩
  · right
    exact h.2 t ho

/-- A well-formed tree whose tokens can be spelled is such a tree: no operator of it
passes for a number. -/
theorem WellFormed.isLexical {e : Expr} (h : e.WellFormed) (ht : ∀ t ∈ e.tokens, t.IsLexical) :
    e.IsLexical := by
  constructor
  · intro value hvalue
    have hmem : Token.number value ∈ e.tokens := mem_tokens_iff.2 (.inl ⟨value, hvalue, rfl⟩)
    rcases ht (.number value) hmem with ⟨-, hnumeral⟩ | ⟨c, hglyph, -⟩
    · exact hnumeral
    · simp [Kind.glyph?] at hglyph
  · intro o ho
    have hmem : o ∈ e.tokens := mem_tokens_iff.2 (.inr ho)
    rcases ht o hmem with ⟨hkind, -⟩ | hglyph
    · rcases h.operatorLevels o ho with ⟨level, hlevel, -⟩
      rw [hkind] at hlevel
      cases hlevel
    · exact hglyph

end Expr

namespace Spelling

/-- A spelling is spaced if its gaps are blank and its numerals stand apart, whatever
its tokens are. -/
structure Spaced (s : Spelling) : Prop where
  lead : IsGap s.lead
  gaps : ∀ item ∈ s.items, IsGap item.2
  separated : Separated s.items

/-- A spelling is admissible if it is spaced and its tokens can be spelled. -/
theorem admissible_iff {s : Spelling} :
    s.Admissible ↔ s.Spaced ∧ ∀ t ∈ s.tokens, t.IsLexical := by
  constructor
  · intro h
    exact ⟨⟨h.lead, h.gaps, h.separated⟩, h.lexical⟩
  · intro h
    exact ⟨h.1.lead, h.1.gaps, h.2, h.1.separated⟩

end Spelling

/-- A token that can be spelled is no end token. -/
theorem Token.IsLexical.kind_ne_eof {t : Token} (h : t.IsLexical) : t.kind ≠ .eof := by
  intro hkind
  rcases h with ⟨hnumber, -⟩ | ⟨c, hglyph, -⟩
  · rw [hkind] at hnumber
    cases hnumber
  · rw [hkind] at hglyph
    cases hglyph

namespace Program

/-- The body of the tokens of an admissible spelling, once closed, is those tokens. -/
theorem body_tokens {s : Spelling} (h : s.Admissible) :
    body (s.tokens ++ [.eof]) = s.tokens := by
  have hkinds : ∀ t ∈ s.tokens, t.kind ≠ .eof := by
    intro t ht
    exact (h.lexical t ht).kind_ne_eof
  exact body_append hkinds rfl

/-- A text that spells the tokens of a program with well-formed trees is read as that
program. -/
theorem ofSource_of_spelling {s : Spelling} {p : Program} (hs : s.Admissible)
    (htokens : s.tokens = p.inorder) (hp : ∀ st ∈ p.statements, st.expr.WellFormed) :
    ofSource (String.ofList s.text) = .ok p := by
  have hderives : Grammar.Statements (body (s.tokens ++ [.eof])) p.statements := by
    rw [body_tokens hs, htokens, inorder_eq]
    exact Grammar.statements_iff.2 ⟨hp, rfl⟩
  have hclosed : closed (s.tokens ++ [.eof]) = true := closed_concat rfl s.tokens
  have hread := ofTokens_of_derives hclosed hderives
  exact Result.bind_eq_ok_iff.2 ⟨s.tokens ++ [.eof], hs.scan_text, hread⟩

/-- A text that is read as a program spells its tokens, and its trees are
well-formed. -/
theorem spelling_of_ofSource {cs : List Char} {p : Program}
    (h : ofSource (String.ofList cs) = .ok p) :
    ∃ s : Spelling, s.Admissible ∧ s.tokens = p.inorder ∧ s.text = cs ∧
      ∀ st ∈ p.statements, st.expr.WellFormed := by
  rcases Result.bind_eq_ok_iff.1 h with ⟨ts, hscan, hread⟩
  rcases Spelling.exists_of_scan_eq_ok hscan with ⟨s, hs, htext, hts⟩
  subst hts
  have hderives := (derives_of_ofTokens hread).2
  rw [body_tokens hs] at hderives
  rcases Grammar.statements_iff.1 hderives with ⟨hwf, htokens⟩
  rw [← inorder_eq] at htokens
  exact ⟨s, hs, htokens, htext, hwf⟩

/-- The tokens of a program can be spelled exactly when its trees are such that they
can, where these are well-formed. -/
theorem isLexical_iff {p : Program} (hp : ∀ st ∈ p.statements, st.expr.WellFormed) :
    (∀ st ∈ p.statements, st.expr.IsLexical) ↔ ∀ t ∈ p.inorder, t.IsLexical := by
  rw [inorder_eq]
  constructor
  · intro h t ht
    rcases List.mem_flatMap.1 ht with ⟨st, hst, hmem⟩
    exact (h st hst).tokens t hmem
  · intro h st hst
    apply (hp st hst).isLexical
    intro t ht
    exact h t (List.mem_flatMap.2 ⟨st, hst, ht⟩)

/-- A source text is read as a program exactly when the literals of the program are
numerals and its operators their own glyphs, its trees are well-formed, and the text
is its tokens in order, with blanks around them and some blank between any two
numerals. -/
theorem ofSource_eq_ok_iff_spelling (source : String) (p : Program) :
    ofSource source = .ok p ↔
      (∀ st ∈ p.statements, st.expr.IsLexical) ∧ (∀ st ∈ p.statements, st.expr.WellFormed) ∧
        ∃ s : Spelling, s.Spaced ∧ s.tokens = p.inorder ∧ String.ofList s.text = source := by
  constructor
  · intro h
    rw [← String.ofList_toList (s := source)] at h
    rcases spelling_of_ofSource h with ⟨s, hs, htokens, htext, hwf⟩
    rcases Spelling.admissible_iff.1 hs with ⟨hspaced, hlexical⟩
    rw [htokens] at hlexical
    refine ⟨(isLexical_iff hwf).2 hlexical, hwf, s, hspaced, htokens, ?_⟩
    rw [htext, String.ofList_toList]
  · intro h
    rcases h with ⟨hlexical, hwf, s, hspaced, htokens, htext⟩
    subst htext
    have hs : s.Admissible := by
      apply Spelling.admissible_iff.2
      rw [htokens]
      exact ⟨hspaced, (isLexical_iff hwf).1 hlexical⟩
    exact ofSource_of_spelling hs htokens hwf

end Program

end Arith
