import Arith.Proofs.Reading
import Arith.Proofs.Result

/-!
# Reading decides the grammar

Past the tokens of a derivation, a reading stands exactly where a chain with the
derived tree as its left operand stands.  So every derivation is read back, up to
the token that ends it, and since reading is a function no sequence has two of them.

Main results:

- `Production.multiplication_run_of_passes`, `Production.addition_run_of_passes`:
  the state of a reading past a derived phrase.
- `Production.statements_of_passes`: reading goes on after derived statements.
- `Program.ofTokens_of_derives`, `Program.derives_of_ofTokens`: the two directions.
- `Grammar.Statements.unique`: a sequence derives one list of statements at most.
- `Program.ofTokens_eq_ok_iff_derives`: reading decides the grammar, which is
  unambiguous.
-/

namespace Arith

namespace Production

open Grammar

/-! ## Past a derived expression -/

/-- A number that can be passed is read as a literal. -/
theorem primary_run_of_passes {c d : Cursor} {t : Token} (hpasses : c.Passes [t] d)
    (ht : t.kind = .number) : primary.run c = ⟨.ok (.literal t.value), d⟩ := by
  have haccept : c.accept? [.number] = some d :=
    Cursor.accept?_of_passes hpasses (by simp [ht])
  have hcurrent : c.current = t := (Cursor.passes_cons_iff.1 hpasses).1
  simp [primary, haccept, hcurrent]

/-- A level goes on with a chain after its first operand. -/
theorem leftAssoc_run_of_ok {level : Level} {operand : Production Expr} {c d : Cursor}
    {left : Expr} (hleft : operand.run c = ⟨.ok left, d⟩) :
    (leftAssoc level operand).run c = chain level operand left d := by
  simp [leftAssoc, hleft]

/-- A chain passes an operator of its level and a right operand in one step. -/
theorem chain_of_passes {level : Level} {operand : Production Expr} {c d : Cursor} {o : Token}
    {us : List Token} {left right : Expr} (hpasses : c.Passes (o :: us) d)
    (ho : o.kind ∈ level.operators)
    (hright : ∀ n, n.Passes us d → operand.run n = ⟨.ok right, d⟩) :
    chain level operand left c = chain level operand (.binary left o right) d := by
  rcases Cursor.passes_cons_iff.1 hpasses with ⟨hcurrent, n, hnext, hus⟩
  subst hcurrent
  have haccept : c.accept? level.operators = some n :=
    Cursor.accept?_eq_some_iff.2 ⟨ho, hnext⟩
  rw [chain_of_run_eq_ok haccept (hright n hus)]

/-- Past a derived multiplication, reading one stands at the chain that extends it. -/
theorem multiplication_run_of_passes {c d : Cursor} {us : List Token} {e : Expr}
    (h : Multiplication us e) (hpasses : c.Passes us d) :
    multiplication.run c = chain .multiplicative primary e d := by
  -- The derivation grows to the right, as the chain does, so the induction follows both.
  induction h generalizing d with
  | number ht => exact leftAssoc_run_of_ok (primary_run_of_passes hpasses ht)
  | extend _ ho ht ih =>
    rcases Cursor.passes_append_iff.1 hpasses with ⟨m, hleft, hright⟩
    rw [ih hleft]
    apply chain_of_passes hright (Level.mem_multiplicative_iff.2 ho)
    intro n hn
    exact primary_run_of_passes hn ht

/-- A derived multiplication is read where no operator extends it. -/
theorem multiplication_run_eq_ok {c d : Cursor} {us : List Token} {e : Expr}
    (h : Multiplication us e) (hpasses : c.Passes us d)
    (hstop : d.current.kind ∉ Level.multiplicative.operators) :
    multiplication.run c = ⟨.ok e, d⟩ := by
  rw [multiplication_run_of_passes h hpasses,
    chain_of_accept?_eq_none (Cursor.accept?_eq_none hstop)]

/-- Past a derived addition, reading one stands at the chain that extends it, unless
its last operand goes on. -/
theorem addition_run_of_passes {c d : Cursor} {us : List Token} {e : Expr}
    (h : Addition us e) (hpasses : c.Passes us d)
    (hstop : d.current.kind ∉ Level.multiplicative.operators) :
    addition.run c = chain .additive multiplication e d := by
  induction h generalizing d with
  | term h => exact leftAssoc_run_of_ok (multiplication_run_eq_ok h hpasses hstop)
  | extend _ ho hright ih =>
    rcases Cursor.passes_append_iff.1 hpasses with ⟨m, hleft, hrest⟩
    have hadditive : m.current.kind ∉ Level.multiplicative.operators := by
      rw [(Cursor.passes_cons_iff.1 hrest).1]
      rcases ho with ho | ho <;> simp [ho, Level.operators]
    rw [ih hleft hadditive]
    apply chain_of_passes hrest (Level.mem_additive_iff.2 ho)
    intro n hn
    exact multiplication_run_eq_ok hright hn hstop

/-- A derived addition is read where no operator extends it. -/
theorem addition_run_eq_ok {c d : Cursor} {us : List Token} {e : Expr}
    (h : Addition us e) (hpasses : c.Passes us d) (hstop : d.current.kind.isOperator = false) :
    addition.run c = ⟨.ok e, d⟩ := by
  have hmultiplicative := Level.not_mem_operators hstop .multiplicative
  have hadditive := Level.not_mem_operators hstop .additive
  rw [addition_run_of_passes h hpasses hmultiplicative,
    chain_of_accept?_eq_none (Cursor.accept?_eq_none hadditive)]

/-! ## Past derived statements -/

/-- A passage of a finished sequence starts at a number, and one of nothing stays. -/
theorem current_of_passes {c d : Cursor} {us : List Token} (hpasses : c.Passes us d)
    (hus : Finished us) : c.current.kind = .number ∨ us = [] ∧ c = d := by
  cases us with
  | nil =>
    right
    exact ⟨rfl, Cursor.passes_nil_iff.1 hpasses⟩
  | cons t us =>
    left
    rw [(Cursor.passes_cons_iff.1 hpasses).1]
    exact hus.head t rfl

/-- A derived addition is read as a statement where no operator extends it. -/
theorem statement_run_eq_ok {c d : Cursor} {us : List Token} {e : Expr}
    (h : Addition us e) (hpasses : c.Passes us d) (hstop : d.current.kind.isOperator = false) :
    statement.run c = ⟨.ok ⟨e⟩, d⟩ := by
  have hnumber : c.current.kind = .number := by
    rcases h.finished with ⟨hfinished, hne⟩
    rcases current_of_passes hpasses hfinished with hnumber | ⟨hnil, -⟩
    · exact hnumber
    · contradiction
  have hexpression : expressionStatement.run c = ⟨.ok ⟨e⟩, d⟩ :=
    Outcome.map_eq_ok_iff.2 ⟨e, addition_run_eq_ok h hpasses hstop, rfl⟩
  simp [statement, hnumber, hexpression]

/-- Reading goes on after derived statements, which are kept. -/
theorem statements_of_passes {c d : Cursor} {us : List Token} {ss read : List Statement}
    (h : Statements us ss) (hpasses : c.Passes us d)
    (hstop : d.current.kind.isOperator = false) :
    statements read c = statements (ss.reverse ++ read) d := by
  induction h generalizing c read with
  | nil => rw [Cursor.passes_nil_iff.1 hpasses]; rfl
  | cons hfirst hrest ih =>
    rcases Cursor.passes_append_iff.1 hpasses with ⟨m, hleft, hright⟩
    have hmiddle : m.current.kind.isOperator = false := by
      rcases current_of_passes hright hrest.finished with hnumber | ⟨-, hsame⟩
      · rw [hnumber]
        rfl
      · rw [hsame]
        exact hstop
    have hopen : c.atEnd = false := by
      rcases hfirst.finished with ⟨hfinished, hne⟩
      rcases current_of_passes hleft hfinished with hnumber | ⟨hnil, -⟩
      · simp [Cursor.atEnd, hnumber]
      · contradiction
    have hstatement := statement_run_eq_ok hfirst hleft hmiddle
    rw [statements_of_run_eq_ok hopen hstatement, ih hright]
    simp

end Production

namespace Program

open Grammar

/-! ## Whole sequences -/

/-- The program of a sequence is what is read at its cursor. -/
theorem ofTokens_eq_result {ts : List Token} {c : Cursor} (hc : Cursor.ofTokens ts = .ok c) :
    ofTokens ts = (Production.program c).result := by
  rw [ofTokens, hc]
  rfl

/-- The program of a closed sequence is what is read from a cursor on its first
token. -/
theorem exists_ofTokens_eq {ts : List Token} (h : closed ts = true) :
    ∃ c : Cursor, c.input = ts ∧
      ofTokens ts = ((Production.statements [] c).map Program.mk).result := by
  rcases Cursor.ofTokens_of_closed h with ⟨c, hc, hinput⟩
  exact ⟨c, hinput, ofTokens_eq_result hc⟩

/-- A sequence that is not closed has no program. -/
theorem ofTokens_of_not_closed {ts : List Token} (h : closed ts = false) :
    ofTokens ts = .error .missingEof := by
  rw [ofTokens, Cursor.ofTokens_of_not_closed h]
  rfl

/-- A closed sequence whose body derives some statements has them as its program. -/
theorem ofTokens_of_derives {ts : List Token} {ss : List Statement} (hclosed : closed ts = true)
    (h : Statements (body ts) ss) : ofTokens ts = .ok ⟨ss⟩ := by
  rcases exists_ofTokens_eq hclosed with ⟨c, hinput, hprogram⟩
  subst hinput
  rcases c.exists_passes_body with ⟨d, hpasses, hend⟩
  have hstop : d.current.kind.isOperator = false := by
    have hkind : d.current.kind = .eof := by simpa [Cursor.atEnd] using hend
    rw [hkind]
    rfl
  rw [hprogram, Production.statements_of_passes h hpasses hstop,
    Production.statements_of_atEnd hend]
  simp [Except.map]

/-- A sequence that has a program is closed, and its body derives the program. -/
theorem derives_of_ofTokens {ts : List Token} {p : Program} (h : ofTokens ts = .ok p) :
    closed ts = true ∧ Statements (body ts) p.statements := by
  by_cases hclosed : closed ts = true
  · rcases exists_ofTokens_eq hclosed with ⟨c, hinput, hprogram⟩
    subst hinput
    rw [hprogram, Outcome.map_result] at h
    rcases Result.map_eq_ok_iff.1 h with ⟨ss, hss, hp⟩
    subst hp
    cases hrun : Production.statements [] c with
    | mk result d =>
      rw [hrun] at hss
      cases hss
      rcases Production.statements_ok hrun with ⟨us, rest, hpasses, hend, hrest, hread⟩
      have hss : ss = rest := by simpa using hread
      rw [← hpasses.eq_body hend, hss]
      exact ⟨hclosed, hrest⟩
  · have hopen : closed ts = false := by simpa using hclosed
    rw [ofTokens_of_not_closed hopen] at h
    contradiction

end Program

namespace Grammar

/-! ## Derivations are unique -/

/-- A sequence derives one list of statements at most. -/
theorem Statements.unique {us : List Token} {ss ss' : List Statement} (h : Statements us ss)
    (h' : Statements us ss') : ss = ss' := by
  have hbody : body (us ++ [.eof]) = us := body_append h.finished.kind_ne rfl
  have hclosed : closed (us ++ [.eof]) = true := closed_concat rfl us
  rw [← hbody] at h h'
  have hread := Program.ofTokens_of_derives hclosed h
  rw [Program.ofTokens_of_derives hclosed h'] at hread
  simpa using hread.symm

/-- Derived phrases in a row are derived statements. -/
theorem statements_of_phrases {phrases : List (List Token × Expr)}
    (h : ∀ x ∈ phrases, Addition x.1 x.2) :
    Statements (phrases.flatMap Prod.fst) (phrases.map fun x => ⟨x.2⟩) := by
  induction phrases with
  | nil => exact .nil
  | cons x phrases ih =>
    refine .cons (h x List.mem_cons_self) (ih ?_)
    intro y hy
    exact h y (List.mem_cons_of_mem x hy)

/-- A sequence is cut into derived phrases in one way at most. -/
theorem phrases_unique {phrases phrases' : List (List Token × Expr)}
    (h : ∀ x ∈ phrases, Addition x.1 x.2) (h' : ∀ x ∈ phrases', Addition x.1 x.2)
    (heq : phrases.flatMap Prod.fst = phrases'.flatMap Prod.fst) : phrases = phrases' := by
  have htokens : ∀ ps : List (List Token × Expr), (∀ x ∈ ps, Addition x.1 x.2) →
      ps = (ps.map fun x => Statement.mk x.2).map fun s => (s.expr.tokens, s.expr) := by
    intro ps hps
    rw [List.map_map]
    refine (List.map_id ps).symm.trans (List.map_congr_left ?_)
    intro x hx
    exact Prod.ext (hps x hx).tokens_eq.symm rfl
  have htrees := (statements_of_phrases h).unique (heq ▸ statements_of_phrases h')
  rw [htokens phrases h, htokens phrases' h', htrees]

end Grammar

/-- Reading decides the grammar: a sequence has a program exactly when it ends with
an end token and the tokens before its first end token derive that program.  The
grammar is unambiguous, down to where one statement ends and the next begins. -/
theorem Program.ofTokens_eq_ok_iff_derives (ts : List Token) :
    (∀ p : Program, ofTokens ts = .ok p ↔
      (∃ e, ts.getLast? = some e ∧ e.kind = .eof) ∧ Grammar.Statements (body ts) p.statements) ∧
    ∀ phrases phrases' : List (List Token × Expr),
      (∀ x ∈ phrases, Grammar.Addition x.1 x.2) → (∀ x ∈ phrases', Grammar.Addition x.1 x.2) →
        phrases.flatMap Prod.fst = ts → phrases'.flatMap Prod.fst = ts → phrases = phrases' := by
  constructor
  · intro p
    rw [← closed_iff]
    constructor
    · intro h
      exact derives_of_ofTokens h
    · intro h
      exact ofTokens_of_derives h.1 h.2
  · intro phrases phrases' h h' hts hts'
    exact Grammar.phrases_unique h h' (hts.trans hts'.symm)

end Arith
