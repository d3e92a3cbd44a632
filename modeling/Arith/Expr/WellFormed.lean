import Arith.Expr.Basic
import Arith.Precedence

/-!
# Well-formed expressions

The trees that precedence and left association leave: below an operator, those
to the left bind at least as tightly, and those to the right more tightly.
-/

namespace Arith.Expr

/-- Whether every operator of an expression binds at a level with a given
property. -/
def OperatorLevels (P : Level → Prop) (e : Expr) : Prop :=
  ∀ o ∈ e.operators, ∃ level, Level.of? o.kind = some level ∧ P level

/-- An expression is well-formed if at every binary node the operator binds at
some level, those of the left operand at least as tightly, and those of the right
operand more tightly. -/
def WellFormed : Expr → Prop
  | literal _ => True
  | binary left operator right =>
      left.WellFormed ∧ right.WellFormed ∧
        ∃ level, Level.of? operator.kind = some level ∧
          left.OperatorLevels (level ≤ ·) ∧ right.OperatorLevels (level < ·)

end Arith.Expr
