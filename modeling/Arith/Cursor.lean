import Arith.Diagnostic

/-!
# Token cursors

A cursor stands on one token of a sequence that is closed by an end token.  It
only moves forward, and it never moves off an end token: one in the middle of
the sequence stops it as the last one does.

Main results:

- `Cursor.ofTokens`: a cursor on the first token of a closed sequence.
- `Cursor.next?_eq_none_iff`: the cursor can move exactly when it is not at an
  end token.
- `Cursor.next?_tokens`, `Cursor.next?_position`: a move keeps the sequence and
  goes one token on.
- `Cursor.perform`, `Cursor.trace`: what single moves and whole runs answer.
-/

namespace Arith

/-- Whether the last token of a sequence is an end token. -/
def closed (ts : List Token) : Bool :=
  ts.getLast?.any fun t => t.kind = .eof

@[simp]
theorem closed_nil : closed [] = false :=
  rfl

@[simp]
theorem closed_singleton (t : Token) : closed [t] = decide (t.kind = .eof) :=
  rfl

@[simp]
theorem closed_cons_cons (t u : Token) (ts : List Token) :
    closed (t :: u :: ts) = closed (u :: ts) := by
  simp [closed]

/-- A place in a closed token sequence. -/
structure Cursor where
  /-- The tokens already passed, latest first. -/
  behind : List Token
  /-- The token that the cursor stands on. -/
  current : Token
  /-- The tokens after the current one. -/
  ahead : List Token
  /-- The sequence is closed by an end token. -/
  closed_ahead : closed (current :: ahead) = true

namespace Cursor

/-- The whole sequence. -/
def tokens (c : Cursor) : List Token :=
  c.behind.reverse ++ c.current :: c.ahead

/-- The index of the current token in the sequence. -/
def position (c : Cursor) : Nat :=
  c.behind.length

/-- The number of tokens after the current one. -/
def remaining (c : Cursor) : Nat :=
  c.ahead.length

/-- A cursor on the first token of a sequence, which has to be closed. -/
def ofTokens : List Token → Except Diagnostic Cursor
  | [] => .error .missingEof
  | t :: ts => if h : closed (t :: ts) then .ok ⟨[], t, ts, h⟩ else .error .missingEof

/-! ## Looking and moving -/

/-- Whether the cursor stands on an end token. -/
def atEnd (c : Cursor) : Bool :=
  c.current.kind = .eof

/-- The token just passed; before any move it is the first token. -/
def previous (c : Cursor) : Token :=
  c.behind.head?.getD c.current

/-- The cursor one token on, unless it stands on an end token. -/
def next? (c : Cursor) : Option Cursor :=
  match c with
  | ⟨_, _, [], _⟩ => none
  | ⟨behind, current, next :: ahead, h⟩ =>
      if current.kind = .eof then none
      else some ⟨current :: behind, next, ahead, by simpa using h⟩

/-- Moves one token on, or stays on an end token. -/
def advance (c : Cursor) : Cursor :=
  c.next?.getD c

/-- Whether the current token has a given kind.  An end token counts as having
no kind at all. -/
def check (c : Cursor) (kind : Kind) : Bool :=
  !c.atEnd && c.current.kind = kind

/-- Moves past the current token if it has one of the given kinds. -/
def accept? (c : Cursor) (kinds : List Kind) : Option Cursor :=
  if kinds.any c.check then c.next? else none

/-- The cursor can move exactly when it does not stand on an end token. -/
theorem next?_eq_none_iff {c : Cursor} : c.next? = none ↔ c.atEnd = true := by
  obtain ⟨behind, current, ahead, h⟩ := c
  cases ahead with
  | nil => simpa [next?, atEnd] using h
  | cons next ahead => simp [next?, atEnd]

/-- A move passes the current token and stands on the one after it. -/
theorem next?_eq_some_iff {c d : Cursor} :
    c.next? = some d ↔
      c.atEnd = false ∧ d.behind = c.current :: c.behind ∧ c.ahead = d.current :: d.ahead := by
  obtain ⟨behind, current, ahead, h⟩ := c
  obtain ⟨behind', current', ahead', h'⟩ := d
  cases ahead with
  | nil => simp [next?]
  | cons next ahead =>
    simp only [next?, atEnd, decide_eq_false_iff_not]
    split
    · simp_all
    · rename_i hkind
      simp only [Option.some.injEq, mk.injEq, List.cons.injEq, hkind, not_false_eq_true, true_and]
      exact ⟨fun ⟨hb, hc, ha⟩ => ⟨hb.symm, hc, ha⟩, fun ⟨hb, hc, ha⟩ => ⟨hb.symm, hc, ha⟩⟩

/-- A move keeps the sequence. -/
theorem next?_tokens {c d : Cursor} (h : c.next? = some d) : d.tokens = c.tokens := by
  obtain ⟨-, hbehind, hahead⟩ := next?_eq_some_iff.1 h
  simp [tokens, hbehind, hahead]

/-- A move goes one token on. -/
theorem next?_position {c d : Cursor} (h : c.next? = some d) : d.position = c.position + 1 := by
  obtain ⟨-, hbehind, -⟩ := next?_eq_some_iff.1 h
  simp [position, hbehind]

/-- A move leaves one token less ahead. -/
theorem next?_remaining {c d : Cursor} (h : c.next? = some d) :
    d.remaining + 1 = c.remaining := by
  obtain ⟨-, -, hahead⟩ := next?_eq_some_iff.1 h
  simp [remaining, hahead]

/-- After a move the token just passed is the one the cursor stood on. -/
theorem next?_previous {c d : Cursor} (h : c.next? = some d) : d.previous = c.current := by
  obtain ⟨-, hbehind, -⟩ := next?_eq_some_iff.1 h
  simp [previous, hbehind]

/-- Tokens are accepted before the end exactly when their kind is asked for. -/
theorem accept?_eq_some_iff {c d : Cursor} {kinds : List Kind} :
    c.accept? kinds = some d ↔ c.current.kind ∈ kinds ∧ c.next? = some d := by
  unfold accept?
  split
  · rename_i h
    obtain ⟨kind, hmem, hcheck⟩ := List.any_eq_true.1 h
    simp only [check, Bool.and_eq_true, decide_eq_true_eq] at hcheck
    simp [hcheck.2, hmem]
  · rename_i h
    refine ⟨fun hd => by simp at hd, fun ⟨hmem, hd⟩ => absurd ?_ h⟩
    have hend := (next?_eq_some_iff.1 hd).1
    exact List.any_eq_true.2 ⟨_, hmem, by simp [check, hend]⟩

/-- Accepting a token leaves one token less ahead. -/
theorem accept?_remaining {c d : Cursor} {kinds : List Kind} (h : c.accept? kinds = some d) :
    d.remaining + 1 = c.remaining :=
  next?_remaining (accept?_eq_some_iff.1 h).2

/-! ## Runs of single moves -/

/-- What can be asked of a cursor. -/
inductive Move where
  | peek
  | previous
  | advance
  | check (kind : Kind)
  | accept (kinds : List Kind)
  | atEnd
deriving DecidableEq

/-- What a cursor answers: a token, or yes or no. -/
inductive Reply where
  | token (t : Token)
  | flag (b : Bool)
deriving DecidableEq

/-- The answer to a move and the cursor after it.  To advance answers with the
token just passed; to accept answers whether the cursor moved. -/
def perform (c : Cursor) : Move → Reply × Cursor
  | .peek => (.token c.current, c)
  | .previous => (.token c.previous, c)
  | .advance => (.token c.advance.previous, c.advance)
  | .check kind => (.flag (c.check kind), c)
  | .accept kinds => (.flag (c.accept? kinds).isSome, (c.accept? kinds).getD c)
  | .atEnd => (.flag c.atEnd, c)

/-- The answers to moves made in order, each with the cursor after it. -/
def trace (c : Cursor) : List Move → List (Reply × Cursor)
  | [] => []
  | m :: ms => c.perform m :: (c.perform m).2.trace ms

end Cursor

end Arith
