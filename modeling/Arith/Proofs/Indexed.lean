import Arith.Session

/-!
# Sessions by index

A second account of sessions, over the plain list of tokens and an index into it.  Every
look at a token is a look-up by index, and a look-up outside the list leaves the whole
session without any result.  So does a loop that goes on for more rounds than the list
has tokens: nothing about the index keeps it from that, and that none of the loops below
does so is part of what is to be shown of them.

Main results:

- `Indexed`: computations on an index, with reports of what cannot be read.
- `Indexed.peek`, `Indexed.previous`: the only two places where the list is looked at.
- `Indexed.take`, `Indexed.session`: steps and whole sessions.
-/

namespace Arith

/-- A computation that moves an index and may report what cannot be read, which keeps
the index where it is then.  There is no result at all after a look-up outside the
list. -/
abbrev Indexed (α : Type) : Type :=
  ExceptT Diagnostic (StateT Nat Option) α

namespace Indexed

/-- No result at all, not even a report. -/
def nothing {α : Type} : Indexed α :=
  liftM (none : Option α)

variable (ts : List Token)

/-! ## Looking and moving -/

/-- Looks up the token at the index. -/
def peek : Indexed Token := do
  let i ← get
  ts[i]?

/-- Looks up the token before the index; at the start that is the first token. -/
def previous : Indexed Token := do
  let i ← get
  ts[i - 1]?

/-- Whether an end token stands at the index. -/
def atEnd : Indexed Bool := do
  let t ← peek ts
  return t.kind = .eof

/-- Moves the index one token on, unless an end token stands there, and looks up the
token before it. -/
def advance : Indexed Token := do
  if ← atEnd ts then
    previous ts
  else
    modify (· + 1)
    previous ts

/-- Whether a token of a given kind stands at the index, an end token apart. -/
def check (kind : Kind) : Indexed Bool := do
  if ← atEnd ts then
    return false
  else
    let t ← peek ts
    return t.kind = kind

/-- Advances if the token at the index has one of the given kinds, which are tried in
order. -/
def accept : List Kind → Indexed Bool
  | [] => return false
  | kind :: kinds => do
      if ← check ts kind then
        let _ ← advance ts
        return true
      else
        accept kinds

/-! ## Productions -/

/-- Reads a number as a literal. -/
def primary : Indexed Expr := do
  if ← accept ts [.number] then
    let t ← previous ts
    return .literal t.value
  else
    let t ← peek ts
    throw (.illegalExpression t)

/-- Extends an expression by operators of a level and their right operands, in a limited
number of rounds. -/
def chain (level : Level) (operand : Indexed Expr) : Nat → Expr → Indexed Expr
  | 0, _ => nothing
  | rounds + 1, left => do
      if ← accept ts level.operators then
        let operator ← previous ts
        let right ← operand
        chain level operand rounds (.binary left operator right)
      else
        return left

/-- Reads an operand and extends it by the operators of a level. -/
def leftAssoc (level : Level) (operand : Indexed Expr) : Indexed Expr := do
  let left ← operand
  chain ts level operand ts.length left

/-- Reads numbers joined by multiplicative operators. -/
def multiplication : Indexed Expr :=
  leftAssoc ts .multiplicative (primary ts)

/-- Reads multiplications joined by additive operators. -/
def addition : Indexed Expr :=
  leftAssoc ts .additive (multiplication ts)

/-- Reads an addition that stands as a statement. -/
def expressionStatement : Indexed Statement := do
  let e ← addition ts
  return ⟨e⟩

/-- Reads a statement, which starts with a number. -/
def statement : Indexed Statement := do
  let t ← peek ts
  if t.kind = .number then
    expressionStatement ts
  else
    let t ← peek ts
    throw (.unknownOperand t)

/-- Reads statements up to an end token, after those already read, in a limited number of
rounds. -/
def statements : Nat → List Statement → Indexed (List Statement)
  | 0, _ => nothing
  | rounds + 1, read => do
      if ← atEnd ts then
        return read.reverse
      else
        let s ← statement ts
        statements rounds (s :: read)

/-- Reads a program up to an end token. -/
def program : Indexed Program := do
  let ss ← statements ts ts.length []
  return ⟨ss⟩

/-! ## Sessions -/

/-- Reads a phrase. -/
def phrase : Phrase → Indexed Node
  | .program => do return .program (← program ts)
  | .statement => do return .statement (← statement ts)
  | .expressionStatement => do return .statement (← expressionStatement ts)
  | .expression => do return .expression (← addition ts)
  | .addition => do return .expression (← addition ts)
  | .multiplication => do return .expression (← multiplication ts)
  | .primary => do return .expression (← primary ts)

/-- Answers a single move. -/
def perform : Cursor.Move → Indexed Cursor.Reply
  | .peek => do return .token (← peek ts)
  | .previous => do return .token (← previous ts)
  | .advance => do return .token (← advance ts)
  | .check kind => do return .flag (← check ts kind)
  | .accept kinds => do return .flag (← accept ts kinds)
  | .atEnd => do return .flag (← atEnd ts)

/-- Answers a step.  A phrase that cannot be read is answered with its report. -/
def take : Cursor.Step → Indexed Cursor.Answer
  | .move m => do return .reply (← perform ts m)
  | .kind => do
      let t ← peek ts
      return .kind t.kind
  | .phrase p =>
      tryCatch (do return .node (.ok (← phrase ts p))) fun g => return .node (.error g)

/-- Answers steps in order, each answer with the index after it. -/
def session : List Cursor.Step → Indexed (List (Cursor.Answer × Nat))
  | [] => return []
  | s :: ss => do
      let answer ← take ts s
      let i ← get
      let rest ← session ss
      return (answer, i) :: rest

end Indexed

end Arith
