import Arith.Production.Expression
import Arith.Program
import Arith.Scanner

/-!
# Reading programs

A program is read statement by statement up to an end token, which is not
passed.  Statements have no terminator: one ends where its expression does, and
the next one has to start with a number.

Main results:

- `Production.statement`, `Production.program`: the two outer readings.
- `Program.ofTokens`: the program of a closed token sequence.
- `Program.ofSource`: the program of a source text.
-/

namespace Arith

namespace Production

/-- An expression that stands as a statement. -/
def expressionStatement : Production Statement :=
  expression.map Statement.mk

/-- Only a number may start a statement; any other token is reported and not
passed. -/
def statement : Production Statement where
  run c :=
    if c.current.kind = .number then expressionStatement.run c
    else ⟨.error (.unknownOperand c.current), c⟩
  remaining_le c := by
    split
    · exact expressionStatement.remaining_le c
    · exact Nat.le_refl _
  remaining_lt c a := by
    split
    · exact expressionStatement.remaining_lt c a
    · exact fun h => nomatch h

/-- Reads statements up to an end token, after those already read, which are
kept latest first. -/
def statements (read : List Statement) (c : Cursor) : Outcome (List Statement) :=
  if c.atEnd then
    ⟨.ok read.reverse, c⟩
  else
    match _hrun : statement.run c with
    | ⟨.error e, stop⟩ => ⟨.error e, stop⟩
    | ⟨.ok s, next⟩ => statements (s :: read) next
termination_by c.remaining
decreasing_by exact statement.remaining_lt_of_run_eq _hrun

/-- Reading ends at an end token. -/
theorem statements_of_atEnd {read : List Statement} {c : Cursor} (hend : c.atEnd = true) :
    statements read c = ⟨.ok read.reverse, c⟩ := by
  rw [statements, if_pos hend]

/-- Reading fails at a statement that cannot be read. -/
theorem statements_of_run_eq_error {read : List Statement} {c stop : Cursor} {e : Diagnostic}
    (hend : c.atEnd = false) (hrun : statement.run c = ⟨.error e, stop⟩) :
    statements read c = ⟨.error e, stop⟩ := by
  rw [statements, if_neg (by simp [hend])]
  split <;> simp_all

/-- Reading goes on after a statement. -/
theorem statements_of_run_eq_ok {read : List Statement} {c next : Cursor} {s : Statement}
    (hend : c.atEnd = false) (hrun : statement.run c = ⟨.ok s, next⟩) :
    statements read c = statements (s :: read) next := by
  conv => lhs; rw [statements, if_neg (by simp [hend])]
  split <;> simp_all

/-- Reads a program up to an end token.  Nothing is kept of a program with a
statement that cannot be read. -/
def program (c : Cursor) : Outcome Program :=
  (statements [] c).map Program.mk

end Production

namespace Program

/-- The program of a token sequence, which has to be closed by an end token. -/
def ofTokens (ts : List Token) : Except Diagnostic Program := do
  let c ← Cursor.ofTokens ts
  (Production.program c).result

/-- The program of a source text.  The whole text is scanned before any of it
is read as a program. -/
def ofSource (source : String) : Except Diagnostic Program := do
  let ts ← Token.scan source
  ofTokens ts

end Program

end Arith
