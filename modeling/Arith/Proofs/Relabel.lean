import Arith.Proofs.Locality

/-!
# Texts of tokens

Reading looks at the kinds of tokens and carries their texts along.  So if the text of every
token is replaced, by what depends on its kind and its text alone, then the same replacement
turns what was read before into what is read now, be that a program or a report.

Main results:

- `Token.relabel`, `Program.relabel`, `Diagnostic.relabel`: tokens, programs and reports with the
  texts replaced.
- `Cursor.next?_relabel`, `Cursor.accept?_relabel`: a cursor moves in the same way.
- `Production.IsUniform`: a reading that does not look at texts.
- `Production.chain_relabel`, `Production.statements_relabel`: the loops of reading.
- `Program.ofTokens_map_relabel`: the program, or the report, of tokens with their texts replaced.
-/

namespace Arith

/-! ## Replacing texts -/

section Relabel

variable (f : Kind → String → String)

/-- A token of the same kind, with its text replaced. -/
def Token.relabel (t : Token) : Token :=
  ⟨t.kind, f t.kind t.value⟩

/-- An expression of the same shape, with the texts of its literals and operators replaced. -/
def Expr.relabel : Expr → Expr
  | .literal value => .literal (f .number value)
  | .binary left operator right => .binary left.relabel (operator.relabel f) right.relabel

/-- A statement with the texts of its expression replaced. -/
def Statement.relabel (s : Statement) : Statement :=
  ⟨s.expr.relabel f⟩

/-- A program with the texts of its statements replaced. -/
def Program.relabel (p : Program) : Program :=
  ⟨p.statements.map (Statement.relabel f)⟩

/-- A cause with the text at fault replaced, if that is the text of a token. -/
def Fault.relabel : Fault → Fault
  | .unrecognisedToken text => .unrecognisedToken text
  | .unknownOperand text kind => .unknownOperand (f kind text) kind
  | .illegalExpression text kind => .illegalExpression (f kind text) kind
  | .missingEof => .missingEof

/-- A diagnostic with its text at fault and the text of its token replaced. -/
def Diagnostic.relabel (d : Diagnostic) : Diagnostic :=
  ⟨d.fault.relabel f, d.token.map (Token.relabel f)⟩

@[simp]
theorem Token.relabel_kind (t : Token) : (t.relabel f).kind = t.kind :=
  rfl

/-- Whether a sequence is closed does not depend on texts. -/
theorem closed_relabel (ts : List Token) : closed (ts.map (Token.relabel f)) = closed ts := by
  rw [closed, closed, List.getLast?_map]
  cases ts.getLast? <;> rfl

/-- A cursor at the same place, with the texts of all tokens replaced. -/
def Cursor.relabel (c : Cursor) : Cursor where
  behind := c.behind.map (Token.relabel f)
  current := c.current.relabel f
  ahead := c.ahead.map (Token.relabel f)
  closed_ahead := (closed_relabel f (c.current :: c.ahead)).trans c.closed_ahead

/-- An outcome with the texts replaced in its report and its cursor, and what it gives replaced
by `g`. -/
def Outcome.relabel {α : Type} (g : α → α) (o : Outcome α) : Outcome α :=
  ⟨(o.result.map g).mapError (Diagnostic.relabel f), o.cursor.relabel f⟩

end Relabel

variable {f : Kind → String → String}

/-! ## Moves -/

namespace Cursor

@[simp]
theorem relabel_current (c : Cursor) : (c.relabel f).current = c.current.relabel f :=
  rfl

/-- Whether the cursor is at an end does not depend on texts. -/
@[simp]
theorem relabel_atEnd (c : Cursor) : (c.relabel f).atEnd = c.atEnd :=
  rfl

/-- The cursor moves in the same way whatever the texts are. -/
theorem next?_relabel (c : Cursor) : (c.relabel f).next? = c.next?.map (relabel f) := by
  rcases c with ⟨behind, current, _ | ⟨next, ahead⟩, hclosed⟩
  · rfl
  · by_cases hend : current.kind = .eof
    · simp [relabel, next?, hend]
    · simp [relabel, next?, hend]

/-- Tokens are accepted in the same way whatever their texts are. -/
theorem accept?_relabel (c : Cursor) (kinds : List Kind) :
    (c.relabel f).accept? kinds = (c.accept? kinds).map (relabel f) := by
  have hcheck : (c.relabel f).check = c.check := rfl
  rw [accept?, accept?, hcheck]
  split
  · exact next?_relabel c
  · rfl

/-- What a cursor accepts, one with other texts accepts too. -/
theorem accept?_relabel_of_eq {c : Cursor} {kinds : List Kind} {r : Option Cursor}
    (h : c.accept? kinds = r) : (c.relabel f).accept? kinds = r.map (relabel f) := by
  rw [accept?_relabel, h]

/-- The cursor of a sequence with the texts replaced is that of the sequence, so replaced. -/
theorem ofTokens_relabel (ts : List Token) :
    ofTokens (ts.map (Token.relabel f)) =
      ((ofTokens ts).map (relabel f)).mapError (Diagnostic.relabel f) := by
  by_cases hclosed : closed ts = true
  · rcases ofTokens_of_closed hclosed with ⟨c, hc, rfl⟩
    have hbehind : c.behind = [] := (ofTokens_eq_ok_iff.1 hc).1
    have hrelabel : ofTokens (c.input.map (Token.relabel f)) = .ok (c.relabel f) :=
      ofTokens_eq_ok_iff.2 ⟨by simp [relabel, hbehind], rfl⟩
    rw [hc, hrelabel]
    rfl
  · have hopen : closed ts = false := by simpa using hclosed
    rw [ofTokens_of_not_closed hopen, ofTokens_of_not_closed ((closed_relabel f ts).trans hopen)]
    rfl

end Cursor

/-! ## Readings -/

namespace Production

/-- A reading is uniform if replacing the texts before it comes to the same as replacing them
after it. -/
def IsUniform {α : Type} (f : Kind → String → String) (g : α → α) (run : Cursor → Outcome α) :
    Prop :=
  ∀ c, run (c.relabel f) = (run c).relabel f g

/-- A uniform reading may be mapped. -/
theorem IsUniform.map {α β : Type} {g : α → α} {g' : β → β} {run : Cursor → Outcome α} {h : α → β}
    (hrun : IsUniform f g run) (hcomm : ∀ a, h (g a) = g' (h a)) :
    IsUniform f g' fun c => (run c).map h := by
  intro c
  simp only [hrun c]
  rcases run c with ⟨e | a, d⟩
  · rfl
  · simp [Outcome.relabel, Outcome.map, Except.map, Except.mapError, hcomm]

/-- A uniform reading that fails does so with any texts. -/
theorem IsUniform.run_eq_error {α : Type} {g : α → α} {run : Cursor → Outcome α} {c d : Cursor}
    {e : Diagnostic} (h : IsUniform f g run) (hrun : run c = ⟨.error e, d⟩) :
    run (c.relabel f) = ⟨.error (e.relabel f), d.relabel f⟩ := by
  rw [h c, hrun]
  rfl

/-- A uniform reading that succeeds does so with any texts. -/
theorem IsUniform.run_eq_ok {α : Type} {g : α → α} {run : Cursor → Outcome α} {c d : Cursor}
    {a : α} (h : IsUniform f g run) (hrun : run c = ⟨.ok a, d⟩) :
    run (c.relabel f) = ⟨.ok (g a), d.relabel f⟩ := by
  rw [h c, hrun]
  rfl

/-- The reading of a number is uniform. -/
theorem primary_isUniform : IsUniform f (Expr.relabel f) primary.run := by
  intro c
  simp only [primary, Cursor.accept?_relabel]
  cases haccept : c.accept? [.number] with
  | none => rfl
  | some d =>
    -- The text is replaced as that of a number, which the kind of the token has to bear out.
    have hnumber : c.current.kind = .number := by
      simpa using (Cursor.accept?_eq_some_iff.1 haccept).1
    simp [Outcome.relabel, Except.map, Except.mapError, Expr.relabel, Token.relabel, hnumber]

section Chain

variable {level : Level} {operand : Production Expr}

/-- A chain over a uniform operand is uniform in the texts of its left operand as well. -/
theorem chain_relabel (hoperand : IsUniform f (Expr.relabel f) operand.run) (left : Expr)
    (c : Cursor) :
    chain level operand (left.relabel f) (c.relabel f) =
      (chain level operand left c).relabel f (Expr.relabel f) := by
  fun_induction chain level operand left c with
  | case1 left c haccept =>
    rw [chain_of_accept?_eq_none (Cursor.accept?_relabel_of_eq haccept)]
    rfl
  | case2 left c n haccept e stop hright =>
    rw [chain_of_run_eq_error (Cursor.accept?_relabel_of_eq haccept)
      (hoperand.run_eq_error hright)]
    rfl
  | case3 left c n haccept right next hright ih =>
    rw [chain_of_run_eq_ok (Cursor.accept?_relabel_of_eq haccept) (hoperand.run_eq_ok hright)]
    exact ih

/-- A level over a uniform operand is uniform. -/
theorem leftAssoc_isUniform (hoperand : IsUniform f (Expr.relabel f) operand.run) :
    IsUniform f (Expr.relabel f) (leftAssoc level operand).run := by
  intro c
  rcases hrun : operand.run c with ⟨e | left, n⟩
  · rw [leftAssoc_run_of_error hrun, leftAssoc_run_of_error (hoperand.run_eq_error hrun)]
    rfl
  · rw [leftAssoc_run_of_ok hrun, leftAssoc_run_of_ok (hoperand.run_eq_ok hrun)]
    exact chain_relabel hoperand left n

end Chain

/-- The reading of an addition is uniform. -/
theorem addition_isUniform : IsUniform f (Expr.relabel f) addition.run :=
  leftAssoc_isUniform (leftAssoc_isUniform primary_isUniform)

/-- The reading of a statement is uniform. -/
theorem statement_isUniform : IsUniform f (Statement.relabel f) statement.run := by
  intro c
  by_cases hnumber : c.current.kind = .number
  · have hexpression : IsUniform f (Statement.relabel f) expressionStatement.run :=
      addition_isUniform.map fun _ => rfl
    simpa [statement, hnumber] using hexpression c
  · simp only [statement, Cursor.relabel_current, Token.relabel_kind, hnumber, ↓reduceIte]
    rfl

/-- The reading of statements is uniform in the texts of those already read as well. -/
theorem statements_relabel (read : List Statement) (c : Cursor) :
    statements (read.map (Statement.relabel f)) (c.relabel f) =
      (statements read c).relabel f (List.map (Statement.relabel f)) := by
  fun_induction statements read c with
  | case1 read c hend =>
    rw [statements_of_atEnd (c := c.relabel f) hend]
    simp [Outcome.relabel, Except.map, Except.mapError]
  | case2 read c hend e stop hrun =>
    have hopen : (c.relabel f).atEnd = false := by simpa using hend
    rw [statements_of_run_eq_error hopen (statement_isUniform.run_eq_error hrun)]
    rfl
  | case3 read c hend s next hrun ih =>
    have hopen : (c.relabel f).atEnd = false := by simpa using hend
    rw [statements_of_run_eq_ok hopen (statement_isUniform.run_eq_ok hrun)]
    exact ih

/-- The reading of a program is uniform. -/
theorem program_isUniform : IsUniform f (Program.relabel f) program := by
  have hstatements : IsUniform f (List.map (Statement.relabel f)) (statements []) :=
    statements_relabel []
  exact hstatements.map fun _ => rfl

end Production

/-- Reading does not look at the texts of tokens.  If every token of a sequence keeps its kind
and has its text replaced, by what depends on its kind and its text, then the result has the same
texts replaced: those of the literals and operators of the program, or the text at fault and the
text of the token that the report points at.  A missing end token stays what it is. -/
theorem Program.ofTokens_map_relabel (f : Kind → String → String) (ts : List Token) :
    ofTokens (ts.map (Token.relabel f)) =
      ((ofTokens ts).map (Program.relabel f)).mapError (Diagnostic.relabel f) := by
  have hcursor := Cursor.ofTokens_relabel (f := f) ts
  cases hc : Cursor.ofTokens ts with
  | error e =>
    rw [hc] at hcursor
    rw [ofTokens, ofTokens, hcursor, hc]
    rfl
  | ok c =>
    rw [hc] at hcursor
    have hstart : Cursor.ofTokens (ts.map (Token.relabel f)) = .ok (c.relabel f) := hcursor
    rw [ofTokens_eq_result hc, ofTokens_eq_result hstart, Production.program_isUniform c]
    rfl

end Arith
