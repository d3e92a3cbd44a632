import Arith.Proofs.Bounds
import Arith.Proofs.Precedence

/-!
# How far phrases reach

Wherever a session has left the cursor, the reading of a phrase either passes exactly the
tokens of what it gives, and nothing that could extend it follows, or it stops at the token
that it reports.  That token stands where the reading started or right after an operator.

Main results:

- `Node.inorder`, `Phrase.EndsBefore`: the tokens of a phrase, and what may follow it.
- `Phrase.Extent`, `Phrase.extent_of_run_eq_ok`: what a phrase that can be read passes.
- `Phrase.Failure`, `Phrase.failure_of_run_eq_error`: where and how a phrase cannot be read.
- `Phrase.rejects_statement_iff`, `Phrase.rejects_program_iff`: when a first token is at
  fault.
- `Cursor.session_extent`, `Cursor.session_failure`: the same in any session, by index.
-/

namespace Arith

/-- A kind that is no operator is a number or the end of input. -/
theorem Kind.number_or_eof {k : Kind} (hk : k.isOperator = false) : k = .number ∨ k = .eof := by
  by_contra h
  rw [not_or] at h
  rw [isOperator_of_ne h.2 h.1] at hk
  contradiction

/-- An outcome is what it gives with the cursor that it leaves. -/
theorem Outcome.eq_of_result_eq {α : Type} {o : Outcome α} {r : Except Diagnostic α}
    (h : o.result = r) : o = ⟨r, o.cursor⟩ := by
  rw [← h]

/-! ## Phrases that can be read -/

/-- The tokens of what the reading of a phrase gives, from left to right. -/
def Node.inorder : Node → List Token
  | program p => p.inorder
  | statement s => s.expr.inorder
  | expression e => e.inorder

namespace Phrase

/-- Before which kinds of token a phrase may end: a number by itself before any, a
multiplication before all but its own operators, an addition before the next one or the end
of input, and a program only before the end of input. -/
def EndsBefore : Phrase → Kind → Prop
  | program, k => k = .eof
  | statement, k | expressionStatement, k | expression, k | addition, k =>
      k = .number ∨ k = .eof
  | multiplication, k => k ≠ .star ∧ k ≠ .slash
  | primary, _ => True

/-- A phrase that can be read passes the tokens of what it gives, at least one of them
unless it is a program, and goes on as long as it can. -/
structure Extent (phrase : Phrase) (c : Cursor) (n : Node) (d : Cursor) : Prop where
  passes : c.Passes n.inorder d
  ne_nil : phrase ≠ .program → n.inorder ≠ []
  stops : phrase.EndsBefore d.current.kind

end Phrase

namespace Production

/-- A number passes itself. -/
theorem primary_passes {c d : Cursor} {e : Expr} (hrun : primary.run c = ⟨.ok e, d⟩) :
    c.Passes e.inorder d ∧ e.inorder ≠ [] := by
  rcases primary_reads.ok hrun with ⟨us, hus, ⟨t, ht, rfl, rfl⟩, -⟩
  rw [Expr.inorder_eq_tokens, Expr.tokens, Grammar.number_value_eq ht]
  exact ⟨hus, by simp⟩

/-- A multiplication passes its tokens, up to one that is none of its operators. -/
theorem multiplication_passes {c d : Cursor} {e : Expr}
    (hrun : multiplication.run c = ⟨.ok e, d⟩) :
    c.Passes e.inorder d ∧ e.inorder ≠ [] ∧ d.current.kind ≠ .star ∧ d.current.kind ≠ .slash := by
  rcases multiplication_reads.ok hrun with ⟨us, hus, hderives, hkind⟩
  rw [Level.mem_multiplicative_iff, not_or] at hkind
  rw [Expr.inorder_eq_tokens, hderives.tokens_eq]
  exact ⟨hus, hderives.finished.2, hkind⟩

/-- An addition passes its tokens, up to one that is no operator. -/
theorem addition_passes {c d : Cursor} {e : Expr} (hrun : addition.run c = ⟨.ok e, d⟩) :
    c.Passes e.inorder d ∧ e.inorder ≠ [] ∧
      (d.current.kind = .number ∨ d.current.kind = .eof) := by
  rcases addition_reads.ok hrun with ⟨us, hus, hderives, hkind⟩
  rw [Expr.inorder_eq_tokens, hderives.tokens_eq]
  exact ⟨hus, hderives.finished.2, Kind.number_or_eof (Level.isOperator_eq_false hkind)⟩

/-- A statement is read as an addition. -/
theorem addition_run_of_statement {c d : Cursor} {s : Statement}
    (hrun : statement.run c = ⟨.ok s, d⟩) : addition.run c = ⟨.ok s.expr, d⟩ := by
  simp only [statement] at hrun
  by_cases hnumber : c.current.kind = .number
  · rw [if_pos hnumber] at hrun
    rcases Outcome.map_eq_ok_iff.1 hrun with ⟨e, he, rfl⟩
    exact he
  · rw [if_neg hnumber] at hrun
    cases hrun

/-- A program passes the tokens of its statements, up to an end token. -/
theorem program_passes {c d : Cursor} {p : Program} (hrun : program c = ⟨.ok p, d⟩) :
    c.Passes p.inorder d ∧ d.current.kind = .eof := by
  rcases Outcome.map_eq_ok_iff.1 hrun with ⟨ss, hss, rfl⟩
  rcases statements_ok hss with ⟨us, rest, hus, hend, hderives, hread⟩
  have hrest : ss = rest := by simpa using hread
  subst hrest
  rw [(Grammar.statements_iff.1 hderives).2] at hus
  rw [Program.inorder_eq]
  exact ⟨hus, by simpa [Cursor.atEnd] using hend⟩

end Production

namespace Phrase

/-- A phrase that is read as an addition, and may end where that may, reaches as far. -/
theorem Extent.of_addition {phrase : Phrase} {c d : Cursor} {e : Expr} {n : Node}
    (hrun : Production.addition.run c = ⟨.ok e, d⟩) (hn : n.inorder = e.inorder)
    (hends : ∀ k, k = .number ∨ k = .eof → phrase.EndsBefore k) : phrase.Extent c n d := by
  rcases Production.addition_passes hrun with ⟨hpasses, hne, hkind⟩
  rw [← hn] at hpasses hne
  exact ⟨hpasses, fun _ => hne, hends d.current.kind hkind⟩

/-- Every phrase that can be read passes the tokens of what it gives, and goes on as long as
it can. -/
theorem extent_of_run_eq_ok {phrase : Phrase} {c d : Cursor} {n : Node}
    (hrun : phrase.run c = ⟨.ok n, d⟩) : phrase.Extent c n d := by
  cases phrase with
  | program =>
    rcases Outcome.map_eq_ok_iff.1 hrun with ⟨p, hp, rfl⟩
    rcases Production.program_passes hp with ⟨hpasses, hstops⟩
    exact ⟨hpasses, fun h => absurd rfl h, hstops⟩
  | statement =>
    rcases Outcome.map_eq_ok_iff.1 hrun with ⟨s, hs, rfl⟩
    have hexpr := Production.addition_run_of_statement hs
    exact .of_addition hexpr rfl fun _ hk => hk
  | expressionStatement =>
    rcases Outcome.map_eq_ok_iff.1 hrun with ⟨s, hs, rfl⟩
    rcases Outcome.map_eq_ok_iff.1 hs with ⟨e, he, rfl⟩
    exact .of_addition he rfl fun _ hk => hk
  | expression | addition =>
    rcases Outcome.map_eq_ok_iff.1 hrun with ⟨e, he, rfl⟩
    exact .of_addition he rfl fun _ hk => hk
  | multiplication =>
    rcases Outcome.map_eq_ok_iff.1 hrun with ⟨e, he, rfl⟩
    rcases Production.multiplication_passes he with ⟨hpasses, hne, hstops⟩
    exact ⟨hpasses, fun _ => hne, hstops⟩
  | primary =>
    rcases Outcome.map_eq_ok_iff.1 hrun with ⟨e, he, rfl⟩
    rcases Production.primary_passes he with ⟨hpasses, hne⟩
    exact ⟨hpasses, fun _ => hne, trivial⟩

/-! ## Phrases that cannot be read -/

/-- A phrase that cannot be read is reported with the text and the kind of the token at which the
reading leaves the cursor, where a number is needed, and the report carries that token.  Nothing
was passed then, or an operator last of all.  Only statements and programs report that they do not
start with a number, and before they have passed anything. -/
structure Failure (phrase : Phrase) (c : Cursor) (g : Diagnostic) (d : Cursor) : Prop where
  report : g = ⟨.illegalExpression d.current.value d.current.kind, some d.current⟩ ∨
    g = ⟨.unknownOperand d.current.value d.current.kind, some d.current⟩ ∧ d = c ∧
      (phrase = .statement ∨ phrase = .program)
  kind_ne : d.current.kind ≠ .number
  place : d = c ∨ c.position < d.position ∧ d.previous.kind.isOperator = true ∧
    (phrase = .multiplication → d.previous.kind = .star ∨ d.previous.kind = .slash)

/-- A reading that gets stuck has passed nothing, or an operator last of all. -/
theorem place_of_passes {kinds : List Kind} {c d : Cursor} {us : List Token}
    (hus : c.Passes us d) (hcase : us = [] ∨ Unfinished kinds us) :
    d = c ∨ c.position < d.position ∧ d.previous.kind.isOperator = true ∧
      d.previous.kind ∈ kinds := by
  rcases hcase with hnil | hunfinished
  · left
    subst hnil
    exact (Cursor.passes_nil_iff.1 hus).symm
  · right
    rcases hunfinished.last with ⟨o, ho, hkind, hoperator⟩
    have hlength : 0 < us.length := by
      apply List.length_pos_of_ne_nil
      intro hnil
      simp [hnil] at ho
    rw [hus.position_eq, hus.previous_eq ho]
    exact ⟨by omega, hoperator, hkind⟩

/-- A reading that gets stuck is a failure. -/
theorem failure_of_stuck {phrase : Phrase} {kinds : List Kind} {c d : Cursor} {g : Diagnostic}
    (hstuck : Production.Stuck kinds c g d)
    (hkinds : phrase = .multiplication → kinds = Level.multiplicative.operators) :
    phrase.Failure c g d := by
  rcases hstuck with ⟨hreport, hne, us, hus, hcase⟩
  refine ⟨.inl hreport, hne, ?_⟩
  rcases place_of_passes hus hcase with hsame | ⟨hlt, hoperator, hkind⟩
  · left
    exact hsame
  · right
    refine ⟨hlt, hoperator, ?_⟩
    intro hphrase
    rw [hkinds hphrase] at hkind
    exact Level.mem_multiplicative_iff.1 hkind

/-- Every phrase that cannot be read is reported where the reading stops. -/
theorem failure_of_run_eq_error {phrase : Phrase} {c d : Cursor} {g : Diagnostic}
    (hrun : phrase.run c = ⟨.error g, d⟩) : phrase.Failure c g d := by
  cases phrase with
  | program =>
    have hprogram := Outcome.map_eq_error_iff.1 hrun
    rcases Production.statements_error (Outcome.map_eq_error_iff.1 hprogram) with
      ⟨hoperator, rfl, rfl⟩ | ⟨hreport, hne, us, hus, hunfinished⟩
    · have hne := (Kind.ne_of_isOperator hoperator).2
      exact ⟨.inr ⟨rfl, rfl, .inr rfl⟩, hne, .inl rfl⟩
    · exact failure_of_stuck ⟨hreport, hne, us, hus, .inr hunfinished⟩ (by simp)
  | statement =>
    rcases Production.statement_error (Outcome.map_eq_error_iff.1 hrun) with
      ⟨hne, rfl, rfl⟩ | ⟨-, hstuck⟩
    · exact ⟨.inr ⟨rfl, rfl, .inl rfl⟩, hne, .inl rfl⟩
    · exact failure_of_stuck hstuck (by simp)
  | expressionStatement =>
    have hstatement := Outcome.map_eq_error_iff.1 hrun
    have hstuck := Production.addition_reads.error (Outcome.map_eq_error_iff.1 hstatement)
    exact failure_of_stuck hstuck (by simp)
  | expression | addition =>
    have hstuck := Production.addition_reads.error (Outcome.map_eq_error_iff.1 hrun)
    exact failure_of_stuck hstuck (by simp)
  | multiplication =>
    have hstuck := Production.multiplication_reads.error (Outcome.map_eq_error_iff.1 hrun)
    exact failure_of_stuck hstuck fun _ => rfl
  | primary =>
    have hstuck := Production.primary_reads.error (Outcome.map_eq_error_iff.1 hrun)
    exact failure_of_stuck hstuck (by simp)

/-- A phrase rejects its first token if it reports that a statement does not start with a
number. -/
def Rejects (phrase : Phrase) (c : Cursor) : Prop :=
  ∃ text kind token d, phrase.run c = ⟨.error ⟨.unknownOperand text kind, token⟩, d⟩

/-- A token that is no number is rejected as the start of a statement. -/
theorem statement_run_of_ne {c : Cursor} (hne : c.current.kind ≠ .number) :
    Production.statement.run c = ⟨.error (.unknownOperand c.current), c⟩ := by
  simp only [Production.statement, if_neg hne]

/-- A statement rejects its first token exactly when that is no number. -/
theorem rejects_statement_iff {c : Cursor} :
    statement.Rejects c ↔ c.current.kind ≠ .number := by
  constructor
  · intro h
    rcases h with ⟨text, kind, token, d, hrun⟩
    rcases Production.statement_error (Outcome.map_eq_error_iff.1 hrun) with
      ⟨hne, -⟩ | ⟨-, hstuck⟩
    · exact hne
    · cases hstuck.report
  · intro hne
    exact ⟨_, _, _, _, Outcome.map_eq_error_iff.2 (statement_run_of_ne hne)⟩

/-- A program rejects its first token exactly when that is an operator.  Where no token is
left there is no statement to start, and after a whole statement no operator is left. -/
theorem rejects_program_iff {c : Cursor} :
    program.Rejects c ↔ c.current.kind.isOperator = true := by
  constructor
  · intro h
    rcases h with ⟨text, kind, token, d, hrun⟩
    have hprogram := Outcome.map_eq_error_iff.1 hrun
    rcases Production.statements_error (Outcome.map_eq_error_iff.1 hprogram) with
      ⟨hoperator, -⟩ | ⟨hreport, -⟩
    · exact hoperator
    · cases hreport
  · intro hoperator
    rcases Kind.ne_of_isOperator hoperator with ⟨heof, hne⟩
    have hopen : c.atEnd = false := by simpa [Cursor.atEnd] using heof
    have hstatements : Production.statements [] c = ⟨.error (.unknownOperand c.current), c⟩ :=
      Production.statements_of_run_eq_error hopen (statement_run_of_ne hne)
    exact ⟨_, _, _, _, Outcome.map_eq_error_iff.2 (Outcome.map_eq_error_iff.2 hstatements)⟩

end Phrase

namespace Cursor

/-! ## Phrases in sessions -/

/-- A session keeps the sequence. -/
theorem tokens_after {ts : List Token} {c : Cursor} (hc : ofTokens ts = .ok c)
    (ss : List Step) : (c.after ss).tokens = ts := by
  rw [(session_decides c ss).tokens_eq]
  exact (start_of_ofTokens hc).1

/-- What a phrase passes, wherever a session has left the cursor.  From the index at which
the reading starts to the one at which it ends stand exactly the tokens of what it gives, in
order.  Of these there is at least one unless the phrase is a program, and the last of them
is the token just passed.  The phrase could not go on, and a program has come to the first
end token of the sequence, which it has not passed. -/
theorem session_extent {ts : List Token} {c : Cursor} (hc : ofTokens ts = .ok c)
    (ss : List Step) {phrase : Phrase} {n : Node} {d : Cursor}
    (hrun : phrase.run (c.after ss) = ⟨.ok n, d⟩) :
    ts.extract (c.after ss).position d.position = n.inorder ∧
      (phrase ≠ .program →
        (c.after ss).position < d.position ∧ n.inorder.getLast? = some d.previous) ∧
      ts[d.position]? = some d.current ∧ phrase.EndsBefore d.current.kind ∧
      (phrase = .program → d.position = endIndex ts) := by
  have htokens := tokens_after hc ss
  rcases Phrase.extent_of_run_eq_ok hrun with ⟨hpasses, hne, hstops⟩
  refine ⟨?_, ?_, ?_, hstops, ?_⟩
  · rw [← htokens]
    exact hpasses.extract_eq
  · intro hphrase
    have hsome := hne hphrase
    constructor
    · have hlength := List.length_pos_of_ne_nil hsome
      rw [hpasses.position_eq]
      omega
    · have hlast := List.getLast?_eq_some_getLast hsome
      rw [hpasses.previous_eq hlast, hlast]
  · rw [← htokens, ← hpasses.tokens_eq]
    exact Indexed.getElem?_position d
  · intro hphrase
    subst hphrase
    -- From the first token on, session and program together pass all of the body.
    rcases session_decides c ss with ⟨vs, hvs, -⟩
    have hwhole := hvs.trans hpasses
    have heof : d.current.kind = .eof := hstops
    have hend : d.atEnd = true := by simp [atEnd, heof]
    rw [hwhole.position_eq, hwhole.eq_body hend, length_body, (ofTokens_eq_ok_iff.1 hc).2,
      (start_of_ofTokens hc).2, Nat.zero_add]

/-- After a failure and a move past the token at fault, an addition passes its three tokens
and ends before the next statement. -/
theorem session_extent_after_failure :
    ∃ c d,
      ofTokens [.number "1", ⟨.plus, "+"⟩, ⟨.slash, "/"⟩, .number "2", ⟨.star, "*"⟩, .number "3",
        .number "4", .eof] = .ok c ∧
      (c.after [.phrase .program, .move .advance]).position = 3 ∧ d.position = 6 ∧
      Phrase.addition.run (c.after [.phrase .program, .move .advance]) =
        ⟨.ok (.expression (.binary (.literal "2") ⟨.star, "*"⟩ (.literal "3"))), d⟩ ∧
      [.number "2", ⟨.star, "*"⟩, .number "3"] =
        (Expr.binary (.literal "2") ⟨.star, "*"⟩ (.literal "3")).inorder ∧
      d.previous = .number "3" ∧ (d.current.kind = .number ∨ d.current.kind = .eof) := by
  rcases hc : ofTokens [.number "1", ⟨.plus, "+"⟩, ⟨.slash, "/"⟩, .number "2", ⟨.star, "*"⟩,
    .number "3", .number "4", .eof] with g | c
  · cases hc
  have hstart : (c.after [.phrase .program, .move .advance]).position = 3 := by
    cases hc
    decide +kernel
  have hend : (Phrase.addition.run
      (c.after [.phrase .program, .move .advance])).cursor.position = 6 := by
    cases hc
    decide +kernel
  have hresult : (Phrase.addition.run (c.after [.phrase .program, .move .advance])).result =
      .ok (.expression (.binary (.literal "2") ⟨.star, "*"⟩ (.literal "3"))) := by
    cases hc
    decide +kernel
  have hrun := Outcome.eq_of_result_eq hresult
  rcases session_extent hc [.phrase .program, .move .advance] hrun with
    ⟨hextract, hpassed, -, hstops, -⟩
  rw [hstart, hend] at hextract
  have hlast := (hpassed (by decide)).2
  rw [← hextract] at hlast
  exact ⟨c, _, rfl, hstart, hend, hrun, hextract, (Option.some.inj hlast).symm, hstops⟩

/-- Where and how a phrase fails, wherever a session has left the cursor.  It is reported
with the token of the sequence at which the cursor is left, which stands where the reading
started or right after an operator.  That a first token is rejected is reported of a
statement exactly when the token is no number, and of a program exactly when it is an
operator. -/
theorem session_failure {ts : List Token} {c : Cursor} (hc : ofTokens ts = .ok c)
    (ss : List Step) :
    (∀ (phrase : Phrase) (g : Diagnostic) (d : Cursor),
      phrase.run (c.after ss) = ⟨.error g, d⟩ →
        phrase.Failure (c.after ss) g d ∧ ts[d.position]? = some d.current ∧
          ts[d.position - 1]? = some d.previous) ∧
      ts[(c.after ss).position]? = some (c.after ss).current ∧
      (Phrase.statement.Rejects (c.after ss) ↔ (c.after ss).current.kind ≠ .number) ∧
      (Phrase.program.Rejects (c.after ss) ↔
        (c.after ss).current.kind.isOperator = true) := by
  have htokens := tokens_after hc ss
  refine ⟨?_, ?_, Phrase.rejects_statement_iff, Phrase.rejects_program_iff⟩
  · intro phrase g d hrun
    have hkeeps := (phrase.run_isLocal (c.after ss)).tokens_eq
    rw [hrun, htokens] at hkeeps
    refine ⟨Phrase.failure_of_run_eq_error hrun, ?_, ?_⟩
    · rw [← hkeeps]
      exact Indexed.getElem?_position d
    · rw [← hkeeps]
      exact Indexed.getElem?_position_sub_one d
  · rw [← htokens]
    exact Indexed.getElem?_position (c.after ss)

/-- The second of two neighbouring operators is reported by a multiplication that starts at
the second token, and is then rejected as the start of a statement and of a program.  The reports
of the multiplication and of the statement have its text and kind, and carry it. -/
theorem session_failure_neighbouring_operators :
    ∃ c d,
      ofTokens [.number "1", .number "2", ⟨.star, "*"⟩, ⟨.minus, "-"⟩, .number "3", .eof] = .ok c ∧
      (c.after [.phrase .primary]).position = 1 ∧ d.position = 3 ∧
      Phrase.multiplication.run (c.after [.phrase .primary]) =
        ⟨.error ⟨.illegalExpression "-" .minus, some ⟨.minus, "-"⟩⟩, d⟩ ∧
      d.current.kind ≠ .number ∧ (d.previous.kind = .star ∨ d.previous.kind = .slash) ∧
      Phrase.statement.run (c.after [.phrase .primary, .phrase .multiplication]) =
        ⟨.error ⟨.unknownOperand "-" .minus, some ⟨.minus, "-"⟩⟩,
          c.after [.phrase .primary, .phrase .multiplication]⟩ ∧
      Phrase.program.Rejects (c.after [.phrase .primary, .phrase .multiplication]) := by
  rcases hc : ofTokens [.number "1", .number "2", ⟨.star, "*"⟩, ⟨.minus, "-"⟩, .number "3", .eof]
    with g | c
  · cases hc
  have hstart : (c.after [.phrase .primary]).position = 1 := by
    cases hc
    decide +kernel
  have hend : (Phrase.multiplication.run (c.after [.phrase .primary])).cursor.position = 3 := by
    cases hc
    decide +kernel
  have hresult : (Phrase.multiplication.run (c.after [.phrase .primary])).result =
      .error ⟨.illegalExpression "-" .minus, some ⟨.minus, "-"⟩⟩ := by
    cases hc
    decide +kernel
  have hcurrent : (c.after [.phrase .primary, .phrase .multiplication]).current =
      ⟨.minus, "-"⟩ := by
    cases hc
    decide +kernel
  have hrun := Outcome.eq_of_result_eq hresult
  rcases (session_failure hc [.phrase .primary]).1 _ _ _ hrun with ⟨hfailure, -, -⟩
  rcases session_failure hc [.phrase .primary, .phrase .multiplication] with
    ⟨hfails, -, hstatement, hprogram⟩
  rw [hcurrent] at hstatement hprogram
  refine ⟨c, _, rfl, hstart, hend, hrun, hfailure.kind_ne, ?_, ?_, hprogram.2 rfl⟩
  · rcases hfailure.place with hsame | ⟨-, -, hprevious⟩
    · rw [hsame, hstart] at hend
      contradiction
    · exact hprevious rfl
  · rcases hstatement.2 (by decide) with ⟨text, kind, token, d, hrejects⟩
    rcases (hfails _ _ _ hrejects).1.report with hreport | ⟨hreport, rfl, -⟩
    · cases hreport
    · rw [hrejects, hreport, hcurrent]

end Cursor

end Arith
