import Arith.Expr.Layout

/-!
# Programs

A program is a sequence of statements; the one form of statement is a bare
expression.
-/

namespace Arith

/-- A statement: an expression that stands by itself. -/
structure Statement where
  expr : Expr
deriving DecidableEq

/-- An ordered, possibly empty sequence of statements. -/
structure Program where
  statements : List Statement
deriving DecidableEq

namespace Statement

/-- The text of a statement: a label and the text of its expression. -/
def render (s : Statement) : String :=
  "ExpressionStatement: " ++ s.expr.render

end Statement

namespace Program

/-- The number of statements. -/
def length (p : Program) : Nat :=
  p.statements.length

/-- Whether a program has no statement. -/
def isEmpty (p : Program) : Bool :=
  p.statements.isEmpty

/-- The text of a program: its statements, one on each line. -/
def render (p : Program) : String :=
  "\n".intercalate (p.statements.map Statement.render)

/-- The tokens from which a program is read, without the end sentinel. -/
def inorder (p : Program) : List Token :=
  p.statements.flatMap fun s => s.expr.inorder

end Program

end Arith
