import Arith.Token

/-!
# Expressions

Arithmetic expressions as binary trees over numerals.  Operators are whole
tokens, so that a tree keeps the text it was read from.

Main results:

- `Expr`: the trees.
- `Expr.tokens`: the tokens of a tree from left to right, by recursion.
- `Expr.height`: the longest path from the root to a literal, by recursion.
-/

namespace Arith

/-- An arithmetic expression: a numeral kept as text, or an operator token
between two expressions. -/
inductive Expr where
  | literal (value : String)
  | binary (left : Expr) (operator : Token) (right : Expr)
deriving DecidableEq

namespace Expr

/-- The tokens of an expression from left to right. -/
def tokens : Expr → List Token
  | literal value => [.number value]
  | binary left operator right => left.tokens ++ operator :: right.tokens

/-- The operator tokens of an expression from left to right. -/
def operators : Expr → List Token
  | literal _ => []
  | binary left operator right => left.operators ++ operator :: right.operators

/-- The literals of an expression from left to right. -/
def literals : Expr → List String
  | literal value => [value]
  | binary left _ right => left.literals ++ right.literals

/-- The number of nodes on the longest path from the root to a literal. -/
def height : Expr → Nat
  | literal _ => 1
  | binary left _ right => 1 + max left.height right.height

/-- The tokens of an expression are its literals and its operators. -/
theorem length_tokens (e : Expr) : e.tokens.length = 2 * e.operators.length + 1 := by
  induction e with
  | literal => rfl
  | binary left operator right ihl ihr =>
    simp only [tokens, operators, List.length_append, List.length_cons, ihl, ihr]
    omega

end Expr

end Arith
