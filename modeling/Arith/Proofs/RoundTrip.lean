import Arith.Proofs.Derivation
import Arith.Proofs.Precedence

/-!
# Reading and writing undo each other

A program that was read has the tokens it was read from, and a program that is
written is read back, as long as its trees are among those that reading builds.

Main results:

- `body_eq_dropLast_iff`: when only the last token of a sequence is an end token.
- `Program.inorder_eq_body`: the tokens of a program are those it was read from.
- `Program.ofTokens_inorder`: a program with well-formed trees is read from its tokens.
- `Program.inorder_of_ofTokens`: writing undoes reading.
- `Program.ofTokens_image`: reading builds the well-formed trees and no others, and
  undoes writing on them.
-/

namespace Arith

/-- The body of a closed sequence is all but its last token exactly when no earlier
token is an end token. -/
theorem body_eq_dropLast_iff {ts : List Token} (h : closed ts = true) :
    body ts = ts.dropLast ↔ ∀ t ∈ ts.dropLast, t.kind ≠ .eof := by
  rcases closed_iff.1 h with ⟨e, hlast, he⟩
  rcases List.getLast?_eq_some_iff.1 hlast with ⟨us, rfl⟩
  rw [List.dropLast_concat]
  constructor
  · intro hbody t ht
    rw [← hbody] at ht
    exact kind_ne_eof_of_mem_body ht
  · intro hus
    exact body_append hus he

namespace Program

/-! ## From tokens to a program and back -/

/-- The tokens of a program are those before the first end token of the sequence that
it was read from. -/
theorem inorder_eq_body {ts : List Token} {p : Program} (h : ofTokens ts = .ok p) :
    p.inorder = body ts := by
  have hderives := (derives_of_ofTokens h).2
  rw [inorder_eq, ← (Grammar.statements_iff.1 hderives).2]

/-- Writing undoes reading: the in-order tokens of a program are the tokens before the
first end token of the sequence that it was read from.  They are all but the last token
exactly when no earlier one is an end token. -/
theorem inorder_of_ofTokens {ts : List Token} {p : Program} (h : ofTokens ts = .ok p) :
    p.inorder = body ts ∧ (p.inorder = ts.dropLast ↔ ∀ t ∈ ts.dropLast, t.kind ≠ .eof) := by
  have hbody := inorder_eq_body h
  refine ⟨hbody, ?_⟩
  rw [hbody]
  exact body_eq_dropLast_iff (derives_of_ofTokens h).1

/-- An end token in the middle hides what stands after it from the program. -/
theorem inorder_before_inner_end :
    ofTokens [.number "1", ⟨.plus, "+"⟩, .number "2", .eof, .number "3", .eof] =
        .ok ⟨[⟨.binary (.literal "1") ⟨.plus, "+"⟩ (.literal "2")⟩]⟩ ∧
      Program.inorder ⟨[⟨.binary (.literal "1") ⟨.plus, "+"⟩ (.literal "2")⟩]⟩ =
        [.number "1", ⟨.plus, "+"⟩, .number "2"] ∧
      Program.inorder ⟨[⟨.binary (.literal "1") ⟨.plus, "+"⟩ (.literal "2")⟩]⟩ ≠
        [.number "1", ⟨.plus, "+"⟩, .number "2", .eof, .number "3"] := by
  have hread : ofTokens [.number "1", ⟨.plus, "+"⟩, .number "2", .eof, .number "3", .eof] =
      .ok ⟨[⟨.binary (.literal "1") ⟨.plus, "+"⟩ (.literal "2")⟩]⟩ := by
    decide +kernel
  rcases inorder_of_ofTokens hread with ⟨hbody, hlast⟩
  refine ⟨hread, hbody, ?_⟩
  intro hall
  exact hlast.1 hall .eof (by simp) rfl

/-! ## From a program to tokens and back -/

/-- The trees of a program that was read are well-formed. -/
theorem wellFormed_of_ofTokens {ts : List Token} {p : Program} (h : ofTokens ts = .ok p) :
    ∀ s ∈ p.statements, s.expr.WellFormed :=
  (Grammar.statements_iff.1 (derives_of_ofTokens h).2).1

/-- The tokens of well-formed trees have no end token among them. -/
theorem kind_ne_eof_of_mem_inorder {p : Program} (hp : ∀ s ∈ p.statements, s.expr.WellFormed) :
    ∀ t ∈ p.inorder, t.kind ≠ .eof := by
  have hderives : Grammar.Statements p.inorder p.statements :=
    Grammar.statements_iff.2 ⟨hp, p.inorder_eq⟩
  exact hderives.finished.kind_ne

/-- A program with well-formed trees is read from its tokens and any end token. -/
theorem ofTokens_inorder {p : Program} {e : Token}
    (hp : ∀ s ∈ p.statements, s.expr.WellFormed) (he : e.kind = .eof) :
    ofTokens (p.inorder ++ [e]) = .ok p := by
  have hclosed : closed (p.inorder ++ [e]) = true := closed_concat he p.inorder
  have hbody : body (p.inorder ++ [e]) = p.inorder :=
    body_append (kind_ne_eof_of_mem_inorder hp) he
  apply ofTokens_of_derives hclosed
  rw [hbody]
  exact Grammar.statements_iff.2 ⟨hp, p.inorder_eq⟩

/-- Reading builds the programs with well-formed trees and no others, and it undoes
writing: well-formed trees one after the other, closed by an end token, are read as
the program that has them as its statements. -/
theorem ofTokens_image :
    (∀ p : Program, (∃ ts, ofTokens ts = .ok p) ↔ ∀ s ∈ p.statements, s.expr.WellFormed) ∧
    ∀ (es : List Expr) (e : Token), (∀ x ∈ es, x.WellFormed) → e.kind = .eof →
      ofTokens (es.flatMap Expr.inorder ++ [e]) = .ok ⟨es.map Statement.mk⟩ := by
  constructor
  · intro p
    constructor
    · intro h
      rcases h with ⟨ts, hts⟩
      exact wellFormed_of_ofTokens hts
    · intro hp
      exact ⟨p.inorder ++ [.eof], ofTokens_inorder hp rfl⟩
  · intro es e hes he
    have hp : ∀ s ∈ (Program.mk (es.map Statement.mk)).statements, s.expr.WellFormed := by
      intro s hs
      rcases List.mem_map.1 hs with ⟨x, hx, rfl⟩
      exact hes x hx
    have hinorder : (Program.mk (es.map Statement.mk)).inorder = es.flatMap Expr.inorder := by
      simp [inorder, List.flatMap_map]
    rw [← hinorder]
    exact ofTokens_inorder hp he

/-- Two trees of which the first has both levels are read back, whatever the texts of
their tokens are. -/
theorem ofTokens_two_trees :
    ofTokens [.number "1", ⟨.minus, "less"⟩, .number "", ⟨.star, "*"⟩, .number "3", .number "4",
        ⟨.eof, "end"⟩] =
      .ok ⟨[⟨.binary (.literal "1") ⟨.minus, "less"⟩
        (.binary (.literal "") ⟨.star, "*"⟩ (.literal "3"))⟩, ⟨.literal "4"⟩]⟩ := by
  have hwf : ∀ x ∈ [Expr.binary (.literal "1") ⟨.minus, "less"⟩
      (.binary (.literal "") ⟨.star, "*"⟩ (.literal "3")), .literal "4"], x.WellFormed := by
    have hminus : Level.of? .minus = some .additive := by decide
    have hstar : Level.of? .star = some .multiplicative := by decide
    have hlt : Level.additive < .multiplicative := by decide
    simp [Expr.WellFormed, Expr.OperatorLevels, Expr.operators, hminus, hstar, hlt]
  have hread := ofTokens_image.2 _ ⟨.eof, "end"⟩ hwf rfl
  simpa [Expr.inorder_eq_tokens, Expr.tokens] using hread

end Program

end Arith
