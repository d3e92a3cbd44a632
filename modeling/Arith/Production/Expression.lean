import Arith.Expr.Basic
import Arith.Precedence
import Arith.Production.Basic

/-!
# Reading expressions

One production for each level of the grammar of expressions:

    addition       := multiplication ((PLUS | MINUS) multiplication)*
    multiplication := primary ((STAR | SLASH) primary)*
    primary        := NUMBER

Main results:

- `chain`: operators of one level and their right operands, folded to the left.
- `primary`, `multiplication`, `addition`: the three levels.
-/

namespace Arith.Production

/-- A number is read as a literal; any other token is reported and not passed. -/
def primary : Production Expr where
  run c :=
    match c.accept? [.number] with
    | some d => ⟨.ok (.literal c.current.value), d⟩
    | none => ⟨.error (.illegalExpression c.current), c⟩
  remaining_le c := by
    split
    · rename_i d h
      exact Nat.le_of_lt (Nat.lt_of_succ_le (Nat.le_of_eq (Cursor.accept?_remaining h)))
    · exact Nat.le_refl _
  remaining_lt c a := by
    split
    · rename_i d h
      exact fun _ => Nat.lt_of_succ_le (Nat.le_of_eq (Cursor.accept?_remaining h))
    · exact fun h => nomatch h

/-- Extends the expression `left` by the operators of a level and their right
operands, as long as such operators follow.  The right operand is a phrase of
`operand`, never a chain itself, so that chains lean to the left. -/
def chain (level : Level) (operand : Production Expr) (left : Expr) (c : Cursor) :
    Outcome Expr :=
  match _haccept : c.accept? level.operators with
  | none => ⟨.ok left, c⟩
  | some d =>
      match _hright : operand.run d with
      | ⟨.error e, stop⟩ => ⟨.error e, stop⟩
      | ⟨.ok right, next⟩ => chain level operand (.binary left c.current right) next
termination_by c.remaining
decreasing_by
  have := Cursor.accept?_remaining _haccept
  have := operand.remaining_lt_of_run_eq _hright
  omega

section Chain

variable {level : Level} {operand : Production Expr} {left : Expr} {c : Cursor}

/-- A chain ends where no operator of its level follows. -/
theorem chain_of_accept?_eq_none (haccept : c.accept? level.operators = none) :
    chain level operand left c = ⟨.ok left, c⟩ := by
  rw [chain]
  split
  · rfl
  · simp_all

/-- A chain fails where an operator has no right operand. -/
theorem chain_of_run_eq_error {d stop : Cursor} {e : Diagnostic}
    (haccept : c.accept? level.operators = some d) (hright : operand.run d = ⟨.error e, stop⟩) :
    chain level operand left c = ⟨.error e, stop⟩ := by
  rw [chain]
  split
  · simp_all
  · rename_i d' haccept'
    obtain rfl : d' = d := by simpa [haccept'] using haccept
    split <;> simp_all

/-- A chain goes on after an operator with a right operand. -/
theorem chain_of_run_eq_ok {d next : Cursor} {right : Expr}
    (haccept : c.accept? level.operators = some d) (hright : operand.run d = ⟨.ok right, next⟩) :
    chain level operand left c = chain level operand (.binary left c.current right) next := by
  conv => lhs; rw [chain]
  split
  · simp_all
  · rename_i d' haccept'
    obtain rfl : d' = d := by simpa [haccept'] using haccept
    split <;> simp_all

end Chain

/-- A chain never goes back. -/
theorem remaining_chain_le (level : Level) (operand : Production Expr) (left : Expr)
    (c : Cursor) : (chain level operand left c).cursor.remaining ≤ c.remaining := by
  fun_induction chain level operand left c with
  | case1 => exact Nat.le_refl _
  | case2 left c d haccept e stop hright =>
    have := Cursor.accept?_remaining haccept
    have := operand.remaining_le_of_run_eq hright
    simp only
    omega
  | case3 left c d haccept right next hright ih =>
    have := Cursor.accept?_remaining haccept
    have := operand.remaining_le_of_run_eq hright
    omega

/-- A phrase of `operand`, extended by the operators of a level. -/
def leftAssoc (level : Level) (operand : Production Expr) : Production Expr where
  run c :=
    match operand.run c with
    | ⟨.error e, stop⟩ => ⟨.error e, stop⟩
    | ⟨.ok left, next⟩ => chain level operand left next
  remaining_le c := by
    split
    · rename_i h
      exact operand.remaining_le_of_run_eq h
    · rename_i h
      exact Nat.le_trans (remaining_chain_le _ _ _ _) (operand.remaining_le_of_run_eq h)
  remaining_lt c a := by
    split
    · exact fun h => nomatch h
    · rename_i h
      exact fun _ =>
        Nat.lt_of_le_of_lt (remaining_chain_le _ _ _ _) (operand.remaining_lt_of_run_eq h)

/-- Numbers joined by multiplicative operators. -/
def multiplication : Production Expr :=
  leftAssoc .multiplicative primary

/-- Multiplications joined by additive operators. -/
def addition : Production Expr :=
  leftAssoc .additive multiplication

/-- An expression is an addition, the loosest level. -/
def expression : Production Expr :=
  addition

end Arith.Production
