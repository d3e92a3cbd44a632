import Arith.Production.Program

/-!
# Reading sessions

A session drives one cursor by hand: single moves and whole productions in any
order, going on after productions that fail.

Main results:

- `Phrase.run`: the reading of each phrase of the grammar, under one type.
- `Cursor.take`, `Cursor.session`: what single steps and whole sessions answer.
-/

namespace Arith

/-- The phrases of the grammar, from the widest to the narrowest. -/
inductive Phrase where
  | program
  | statement
  | expressionStatement
  | expression
  | addition
  | multiplication
  | primary
deriving DecidableEq

/-- What the reading of a phrase gives. -/
inductive Node where
  | program (p : Program)
  | statement (s : Statement)
  | expression (e : Expr)
deriving DecidableEq

namespace Phrase

/-- Reads a phrase at a cursor. -/
def run : Phrase → Cursor → Outcome Node
  | program, c => (Production.program c).map .program
  | statement, c => (Production.statement.run c).map .statement
  | expressionStatement, c => (Production.expressionStatement.run c).map .statement
  | expression, c => (Production.expression.run c).map .expression
  | addition, c => (Production.addition.run c).map .expression
  | multiplication, c => (Production.multiplication.run c).map .expression
  | primary, c => (Production.primary.run c).map .expression

end Phrase

namespace Cursor

/-- One step of a session: a single move, a question for the kind of the
current token, or the reading of a phrase. -/
inductive Step where
  | move (m : Move)
  | kind
  | phrase (p : Phrase)
deriving DecidableEq

/-- The answer to a step. -/
inductive Answer where
  | reply (r : Reply)
  | kind (k : Kind)
  | node (result : Except Diagnostic Node)
deriving DecidableEq

/-- The answer to a step and the cursor after it.  A phrase that cannot be read
leaves the cursor where the reading failed. -/
def take (c : Cursor) : Step → Answer × Cursor
  | .move m => (.reply (c.perform m).1, (c.perform m).2)
  | .kind => (.kind c.current.kind, c)
  | .phrase p => (.node (p.run c).result, (p.run c).cursor)

/-- The answers to steps taken in order, each with the cursor after it. -/
def session (c : Cursor) : List Step → List (Answer × Cursor)
  | [] => []
  | s :: ss => c.take s :: (c.take s).2.session ss

end Cursor

end Arith
