import Arith.Production.Program
import Arith.Proofs.Passage
import Arith.Proofs.Shape

/-!
# What a reading passes

From any cursor, a reading that succeeds passes tokens that derive what it gives and
stops only where it cannot be extended; a reading that fails passes an unfinished
phrase and reports the token after it.  Every level of the grammar is a chain over
the level below, so the two facts are proved once for chains.

Main results:

- `Production.Stuck`, `Production.Reads`: how a reading of an expression ends.
- `Production.Reads.leftAssoc`: a chain over an operand that reads so reads so too.
- `Production.multiplication_reads`, `Production.addition_reads`: the two levels.
- `Production.statements_ok`, `Production.statements_error`: whole programs.
-/

namespace Arith

namespace Level

/-- The operators of every level are operators. -/
theorem isOperator_of_mem_operators {level : Level} {k : Kind} (hk : k ∈ level.operators) :
    k.isOperator = true := by
  rw [← of?_isSome, mem_operators_iff.1 hk]
  rfl

/-- The end of input is an operator of no level. -/
theorem eof_not_mem_operators (level : Level) : Kind.eof ∉ level.operators := by
  cases level <;> decide

/-- A kind that is at neither of the two levels is no operator. -/
theorem isOperator_eq_false {k : Kind}
    (hk : k ∉ additive.operators ++ multiplicative.operators) : k.isOperator = false := by
  cases k <;> simp_all [operators, Kind.isOperator, Kind.glyph?]

/-- A kind that is no operator is one of no level. -/
theorem not_mem_operators {k : Kind} (hk : k.isOperator = false) (level : Level) :
    k ∉ level.operators := by
  intro hmem
  rw [isOperator_of_mem_operators hmem] at hk
  contradiction

end Level

namespace Outcome

variable {α β : Type} {f : α → β} {o : Outcome α} {d : Cursor}

/-- A mapped outcome is good exactly when the outcome is. -/
theorem map_eq_ok_iff {b : β} : o.map f = ⟨.ok b, d⟩ ↔ ∃ a, o = ⟨.ok a, d⟩ ∧ f a = b := by
  rcases o with ⟨_ | a, n⟩
  · simp [map, Except.map]
  · simp only [map, Except.map, mk.injEq, Except.ok.injEq]
    constructor
    · intro h
      exact ⟨a, ⟨rfl, h.2⟩, h.1⟩
    · intro h
      rcases h with ⟨a', ⟨ha, hn⟩, hb⟩
      rw [ha]
      exact ⟨hb, hn⟩

/-- A mapped outcome is bad exactly when the outcome is, with the same report. -/
theorem map_eq_error_iff {g : Diagnostic} : o.map f = ⟨.error g, d⟩ ↔ o = ⟨.error g, d⟩ := by
  rcases o with ⟨_ | a, n⟩ <;> simp [map, Except.map]

end Outcome

namespace Production

open Grammar

/-! ## The two ways a reading ends -/

/-- A reading gets stuck: it has passed nothing, or tokens that break off after an
operator of one of the given kinds, and it reports the token that it stands on, where
a number is needed. -/
structure Stuck (kinds : List Kind) (c : Cursor) (g : Diagnostic) (d : Cursor) : Prop where
  report : g = .illegalExpression d.current
  kind_ne : d.current.kind ≠ .number
  passed : ∃ us, c.Passes us d ∧ (us = [] ∨ Unfinished kinds us)

/-- A production reads the phrases of a derivation, with operators of the given
kinds: it passes a phrase that none of these operators extends, or it gets stuck. -/
structure Reads (p : Production Expr) (kinds : List Kind) (D : List Token → Expr → Prop) :
    Prop where
  ok : ∀ {c d : Cursor} {e : Expr}, p.run c = ⟨.ok e, d⟩ →
    ∃ us, c.Passes us d ∧ D us e ∧ d.current.kind ∉ kinds
  error : ∀ {c d : Cursor} {g : Diagnostic}, p.run c = ⟨.error g, d⟩ → Stuck kinds c g d

/-- The derivation of a number by itself. -/
def Number (us : List Token) (e : Expr) : Prop :=
  ∃ t : Token, t.kind = .number ∧ us = [t] ∧ e = .literal t.value

/-- A number is read by itself, and no operator with it. -/
theorem primary_reads : Reads primary [] Number where
  ok := by
    intro c d e hrun
    simp only [primary] at hrun
    split at hrun
    · rename_i n haccept
      cases hrun
      rcases Cursor.accept?_eq_some_iff.1 haccept with ⟨hkind, hnext⟩
      have hnumber : c.current.kind = .number := by simpa using hkind
      exact ⟨[c.current], Cursor.passes_of_next? hnext, ⟨c.current, hnumber, rfl, rfl⟩, by simp⟩
    · cases hrun
  error := by
    intro c d g hrun
    simp only [primary] at hrun
    split at hrun
    · cases hrun
    · rename_i haccept
      cases hrun
      have hkind := Cursor.kind_not_mem_of_accept?_eq_none haccept (by decide)
      have hnumber : c.current.kind ≠ .number := by simpa using hkind
      exact ⟨rfl, hnumber, [], .refl c, .inl rfl⟩

/-! ## Chains -/

section Chain

variable {level : Level} {operand : Production Expr} {kinds : List Kind}
  {O D : List Token → Expr → Prop}

/-- A chain that succeeds extends the phrase before it, and stops where no operator
extends it further. -/
theorem chain_ok (hoperand : Reads operand kinds O)
    (hextend : ∀ {ts us left o right}, D ts left → o.kind ∈ level.operators → O us right →
      D (ts ++ o :: us) (.binary left o right))
    {left e : Expr} {c d : Cursor} {ts : List Token}
    (hrun : chain level operand left c = ⟨.ok e, d⟩) (hleft : D ts left)
    (hkind : c.current.kind ∉ kinds) :
    ∃ us, c.Passes us d ∧ D (ts ++ us) e ∧ d.current.kind ∉ level.operators ++ kinds := by
  fun_induction chain level operand left c generalizing ts with
  | case1 left c haccept =>
    cases hrun
    have hstop := Cursor.kind_not_mem_of_accept?_eq_none haccept level.eof_not_mem_operators
    refine ⟨[], .refl _, ?_, ?_⟩
    · rw [List.append_nil]
      exact hleft
    · simp [hstop, hkind]
  | case2 left c n haccept g stop hright => cases hrun
  | case3 left c n haccept right next hright ih =>
    rcases Cursor.accept?_eq_some_iff.1 haccept with ⟨hoperator, hnext⟩
    rcases hoperand.ok hright with ⟨us, hus, hO, hnextKind⟩
    have hlonger := hextend hleft hoperator hO
    rcases ih hrun hlonger hnextKind with ⟨vs, hvs, hD, hstop⟩
    have hpasses := (Cursor.Passes.step hnext hus).trans hvs
    refine ⟨c.current :: us ++ vs, hpasses, ?_, hstop⟩
    simpa using hD

/-- A chain that fails gets stuck after one of its operators, or inside a right
operand. -/
theorem chain_error (hoperand : Reads operand kinds O)
    (hextend : ∀ {ts us left o right}, D ts left → o.kind ∈ level.operators → O us right →
      D (ts ++ o :: us) (.binary left o right))
    (hfinished : ∀ {ts e}, D ts e → Finished ts ∧ ts ≠ [])
    {left : Expr} {c d : Cursor} {g : Diagnostic} {ts : List Token}
    (hrun : chain level operand left c = ⟨.error g, d⟩) (hleft : D ts left) :
    g = .illegalExpression d.current ∧ d.current.kind ≠ .number ∧
      ∃ us, c.Passes us d ∧ Unfinished (level.operators ++ kinds) (ts ++ us) := by
  fun_induction chain level operand left c generalizing ts with
  | case1 left c haccept => cases hrun
  | case2 left c n haccept g stop hright =>
    cases hrun
    rcases Cursor.accept?_eq_some_iff.1 haccept with ⟨hoperator, hnext⟩
    rcases hoperand.error hright with ⟨hreport, hne, us, hus, hcase⟩
    rcases hfinished hleft with ⟨hts, htsNe⟩
    refine ⟨hreport, hne, c.current :: us, .step hnext hus, ?_⟩
    rcases hcase with hnil | hunfinished
    · subst hnil
      have hmem : c.current.kind ∈ level.operators ++ kinds := List.mem_append_left kinds hoperator
      exact hts.snoc htsNe hmem (Level.isOperator_of_mem_operators hoperator)
    · apply hts.extend_unfinished htsNe
      exact hunfinished.mono (List.subset_append_right level.operators kinds)
  | case3 left c n haccept right next hright ih =>
    rcases Cursor.accept?_eq_some_iff.1 haccept with ⟨hoperator, hnext⟩
    rcases hoperand.ok hright with ⟨us, hus, hO, -⟩
    have hlonger := hextend hleft hoperator hO
    rcases ih hrun hlonger with ⟨hreport, hne, vs, hvs, hunfinished⟩
    have hpasses := (Cursor.Passes.step hnext hus).trans hvs
    refine ⟨hreport, hne, c.current :: us ++ vs, hpasses, ?_⟩
    simpa using hunfinished

/-- A level of the grammar reads its phrases if its operand does. -/
theorem Reads.leftAssoc (hoperand : Reads operand kinds O) (hfirst : ∀ {ts e}, O ts e → D ts e)
    (hextend : ∀ {ts us left o right}, D ts left → o.kind ∈ level.operators → O us right →
      D (ts ++ o :: us) (.binary left o right))
    (hfinished : ∀ {ts e}, D ts e → Finished ts ∧ ts ≠ []) :
    Reads (leftAssoc level operand) (level.operators ++ kinds) D where
  ok := by
    intro c d e hrun
    simp only [Production.leftAssoc] at hrun
    split at hrun
    · cases hrun
    · rename_i left next hleft
      rcases hoperand.ok hleft with ⟨us, hus, hO, hkind⟩
      rcases chain_ok (D := D) hoperand hextend hrun (hfirst hO) hkind with ⟨vs, hvs, hD, hstop⟩
      exact ⟨us ++ vs, hus.trans hvs, hD, hstop⟩
  error := by
    intro c d g hrun
    simp only [Production.leftAssoc] at hrun
    split at hrun
    · rename_i g' stop hleft
      cases hrun
      rcases hoperand.error hleft with ⟨hreport, hne, us, hus, hcase⟩
      refine ⟨hreport, hne, us, hus, ?_⟩
      rcases hcase with hnil | hunfinished
      · left
        exact hnil
      · right
        exact hunfinished.mono (List.subset_append_right level.operators kinds)
    · rename_i left next hleft
      rcases hoperand.ok hleft with ⟨us, hus, hO, -⟩
      rcases chain_error (D := D) hoperand hextend hfinished hrun (hfirst hO) with
        ⟨hreport, hne, vs, hvs, hunfinished⟩
      exact ⟨hreport, hne, us ++ vs, hus.trans hvs, .inr hunfinished⟩

end Chain

/-! ## The levels of the grammar -/

/-- Multiplications are read up to where no multiplicative operator follows. -/
theorem multiplication_reads :
    Reads multiplication Level.multiplicative.operators Multiplication := by
  have hreads : Reads multiplication (Level.multiplicative.operators ++ []) Multiplication := by
    refine primary_reads.leftAssoc ?_ ?_ Multiplication.finished
    · intro ts e h
      rcases h with ⟨t, ht, hts, he⟩
      subst hts he
      exact .number ht
    · intro ts us left o right hleft ho hright
      rcases hright with ⟨t, ht, hus, he⟩
      subst hus he
      exact .extend hleft (Level.mem_multiplicative_iff.1 ho) ht
  simpa using hreads

/-- Additions are read up to where no operator follows. -/
theorem addition_reads :
    Reads addition (Level.additive.operators ++ Level.multiplicative.operators) Addition := by
  refine multiplication_reads.leftAssoc Addition.term ?_ Addition.finished
  intro ts us left o right hleft ho hright
  exact .extend hleft (Level.mem_additive_iff.1 ho) hright

/-! ## Statements and programs -/

/-- A statement that can be read passes a derived addition that no operator
extends. -/
theorem statement_ok {c d : Cursor} {s : Statement} (hrun : statement.run c = ⟨.ok s, d⟩) :
    ∃ us, c.Passes us d ∧ Addition us s.expr ∧ d.current.kind.isOperator = false := by
  simp only [statement] at hrun
  by_cases hnumber : c.current.kind = .number
  · rw [if_pos hnumber] at hrun
    rcases Outcome.map_eq_ok_iff.1 hrun with ⟨e, haddition, he⟩
    subst he
    rcases addition_reads.ok haddition with ⟨us, hus, hD, hkind⟩
    exact ⟨us, hus, hD, Level.isOperator_eq_false hkind⟩
  · rw [if_neg hnumber] at hrun
    cases hrun

/-- A statement cannot be read because it does not start with a number, or because
it gets stuck further on. -/
theorem statement_error {c d : Cursor} {g : Diagnostic}
    (hrun : statement.run c = ⟨.error g, d⟩) :
    (c.current.kind ≠ .number ∧ g = .unknownOperand c.current ∧ d = c) ∨
      (c.current.kind = .number ∧
        Stuck (Level.additive.operators ++ Level.multiplicative.operators) c g d) := by
  simp only [statement] at hrun
  by_cases hnumber : c.current.kind = .number
  · right
    rw [if_pos hnumber] at hrun
    have haddition : addition.run c = ⟨.error g, d⟩ := Outcome.map_eq_error_iff.1 hrun
    exact ⟨hnumber, addition_reads.error haddition⟩
  · left
    rw [if_neg hnumber] at hrun
    cases hrun
    exact ⟨hnumber, rfl, rfl⟩

/-- Statements that can be read pass their derivation up to an end token. -/
theorem statements_ok {read ss : List Statement} {c d : Cursor}
    (hrun : statements read c = ⟨.ok ss, d⟩) :
    ∃ us rest, c.Passes us d ∧ d.atEnd = true ∧ Statements us rest ∧ ss = read.reverse ++ rest := by
  fun_induction statements read c with
  | case1 read c hend =>
    cases hrun
    exact ⟨[], [], .refl _, hend, .nil, by simp⟩
  | case2 read c hend g stop hstatement => cases hrun
  | case3 read c hend s next hstatement ih =>
    rcases statement_ok hstatement with ⟨us, hus, hD, -⟩
    rcases ih hrun with ⟨vs, rest, hvs, hatEnd, hrest, hss⟩
    subst hss
    exact ⟨us ++ vs, s :: rest, hus.trans hvs, hatEnd, .cons hD hrest, by simp⟩

/-- Statements cannot be read because the first token is an operator, or because one
of them gets stuck: after a whole statement the next token is no operator. -/
theorem statements_error {read : List Statement} {c d : Cursor} {g : Diagnostic}
    (hrun : statements read c = ⟨.error g, d⟩) :
    (c.current.kind.isOperator = true ∧ g = .unknownOperand c.current ∧ d = c) ∨
      (g = .illegalExpression d.current ∧ d.current.kind ≠ .number ∧
        ∃ us, c.Passes us d ∧
          Unfinished (Level.additive.operators ++ Level.multiplicative.operators) us) := by
  fun_induction statements read c with
  | case1 read c hend => cases hrun
  | case2 read c hend g stop hstatement =>
    cases hrun
    rcases statement_error hstatement with ⟨hne, hg, hd⟩ | ⟨hnumber, hreport, hne, us, hus, hcase⟩
    · left
      have heof : c.current.kind ≠ .eof := by simpa [Cursor.atEnd] using hend
      exact ⟨Kind.isOperator_of_ne heof hne, hg, hd⟩
    · right
      refine ⟨hreport, hne, us, hus, ?_⟩
      -- Nothing passed would leave the statement at its number, which can be read.
      rcases hcase with hnil | hunfinished
      · subst hnil
        rw [Cursor.passes_nil_iff.1 hus] at hnumber
        contradiction
      · exact hunfinished
  | case3 read c hend s next hstatement ih =>
    rcases statement_ok hstatement with ⟨us, hus, hD, hkind⟩
    rcases ih hrun with ⟨hoperator, -, -⟩ | ⟨hreport, hne, vs, hvs, hunfinished⟩
    · rw [hkind] at hoperator
      contradiction
    · right
      have hlonger := hD.finished.1.append_unfinished hunfinished
      exact ⟨hreport, hne, us ++ vs, hus.trans hvs, hlonger⟩

end Production

end Arith
