import Arith.Diagnostic
import Arith.Lexeme
import Arith.Text.Bytes

/-!
# Scanning source text

A scanner is a byte position in source text together with the tokens found so
far.  The position can be moved by any number of bytes, also into the middle of
a character or past the end of the text; only at a character boundary does it
have a remainder.  Scanning itself takes one lexeme after another and closes the
tokens with the end sentinel.

Main results:

- `Scanner.advance`, `Scanner.atEnd`, `Scanner.remainder?`: the byte position.
- `Scanner.settle_append`: a move by the bytes of the text ahead passes it.
- `Scanner.step`: one lexeme is taken, or its first character reported.
- `Scanner.rest_step_lt`: every step that succeeds leaves less text.
- `Token.scan`: the tokens of a source text.
-/

namespace Arith

/-- A byte position in source text, and the tokens found so far. -/
structure Scanner where
  /-- The number of bytes before the position. -/
  offset : Nat
  /-- The characters that do not lie wholly before the position. -/
  rest : List Char
  /-- How many bytes the position lies beyond the start of `rest`. -/
  overshoot : Nat
  /-- The tokens found so far, latest first. -/
  found : List Token

namespace Scanner

/-- A scanner at the start of a source text. -/
def ofSource (source : String) : Scanner :=
  ⟨0, source.toList, 0, []⟩

/-! ## The byte position -/

/-- Drops the characters that lie wholly within the first `n` bytes, and gives
with what is left the bytes that remain of `n`. -/
def settle : Nat → List Char → Nat × List Char
  | n, [] => (n, [])
  | n, c :: cs => if c.utf8Size ≤ n then settle (n - c.utf8Size) cs else (n, c :: cs)

/-- Moves the position forward by `n` bytes. -/
def advance (s : Scanner) (n : Nat) : Scanner :=
  let (overshoot, rest) := settle (s.overshoot + n) s.rest
  { s with offset := s.offset + n, rest, overshoot }

/-- Records a token; the position stays. -/
def push (s : Scanner) (t : Token) : Scanner :=
  { s with found := t :: s.found }

/-- Whether the position is at the end of the text or beyond it. -/
def atEnd (s : Scanner) : Bool :=
  s.rest.isEmpty

/-- The text after the position, if the position is at a character boundary of
the text. -/
def remainder? (s : Scanner) : Option String :=
  if s.overshoot = 0 then some (String.ofList s.rest) else none

/-- Dropping characters never adds any. -/
theorem length_settle_le (n : Nat) (cs : List Char) : (settle n cs).2.length ≤ cs.length := by
  induction cs generalizing n with
  | nil => simp [settle]
  | cons c cs ih =>
    unfold settle
    split
    · exact Nat.le_succ_of_le (ih _)
    · exact Nat.le_refl _

/-- A move past the first character drops it. -/
theorem length_settle_lt {n : Nat} {c : Char} {cs : List Char} (h : c.utf8Size ≤ n) :
    (settle n (c :: cs)).2.length < (c :: cs).length := by
  rw [settle, if_pos h]
  exact Nat.lt_succ_of_le (length_settle_le _ _)

/-- Nothing is dropped within no bytes. -/
@[simp]
theorem settle_zero (cs : List Char) : settle 0 cs = (0, cs) := by
  cases cs with
  | nil => rfl
  | cons c cs => simp [settle, Nat.ne_of_gt c.utf8Size_pos]

/-- The bytes of a text at the front are spent on dropping it. -/
theorem settle_append (n : Nat) (front cs : List Char) :
    settle (Text.byteLength front + n) (front ++ cs) = settle n cs := by
  induction front with
  | nil => simp
  | cons c front ih =>
    rw [Text.byteLength_cons, List.cons_append, settle, if_pos (by omega), ← ih]
    congr 1
    omega

@[simp]
theorem push_rest (s : Scanner) (t : Token) : (s.push t).rest = s.rest :=
  rfl

@[simp]
theorem push_offset (s : Scanner) (t : Token) : (s.push t).offset = s.offset :=
  rfl

@[simp]
theorem push_overshoot (s : Scanner) (t : Token) : (s.push t).overshoot = s.overshoot :=
  rfl

@[simp]
theorem advance_rest (s : Scanner) (n : Nat) :
    (s.advance n).rest = (settle (s.overshoot + n) s.rest).2 :=
  rfl

@[simp]
theorem advance_offset (s : Scanner) (n : Nat) : (s.advance n).offset = s.offset + n :=
  rfl

@[simp]
theorem advance_found (s : Scanner) (n : Nat) : (s.advance n).found = s.found :=
  rfl

/-! ## Moves by hand -/

/-- What can be done to a scanner: nothing, a move by some bytes, or the
recording of a token. -/
inductive Move where
  | look
  | advance (bytes : Nat)
  | push (token : Token)

/-- Carries out one move. -/
def perform (s : Scanner) : Move → Scanner
  | .look => s
  | .advance n => s.advance n
  | .push t => s.push t

/-- Carries out moves in order and gives the scanner after each of them. -/
def trace (s : Scanner) : List Move → List Scanner
  | [] => []
  | m :: ms => s.perform m :: (s.perform m).trace ms

/-! ## Taking lexemes -/

/-- Records the token of a lexeme, if it makes one, and moves past its text. -/
def take (s : Scanner) (l : Lexeme) : Scanner :=
  (l.token?.elim s s.push).advance (Text.byteLength l.text)

/-- Takes the lexeme at the position, or reports the character that starts none.
At the end of the text there is nothing to take. -/
def step (s : Scanner) : Except Diagnostic Scanner :=
  match s.rest with
  | [] => .ok s
  | c :: cs =>
      match Lexeme.leading? (c :: cs) with
      | none => .error (.unrecognised c)
      | some l => .ok (s.take l)

@[simp]
theorem take_rest (s : Scanner) (l : Lexeme) :
    (s.take l).rest = (settle (s.overshoot + Text.byteLength l.text) s.rest).2 := by
  unfold take
  cases l.token? <;> rfl

/-- From a character boundary, taking a lexeme at the position leads to the
boundary just after its text. -/
theorem take_eq_of_rest_eq {s : Scanner} {l : Lexeme} {cs : List Char}
    (hboundary : s.overshoot = 0) (hrest : s.rest = l.text ++ cs) :
    (s.take l).rest = cs ∧ (s.take l).overshoot = 0 := by
  have hsettle : settle (s.overshoot + Text.byteLength l.text) s.rest = (0, cs) := by
    rw [hboundary, hrest, Nat.zero_add, ← Nat.add_zero (Text.byteLength l.text), settle_append,
      settle_zero]
  unfold take
  cases l.token? <;> simp [advance, push, hsettle]

/-- Every step before the end of the text leaves less of it. -/
theorem rest_step_lt {s t : Scanner} (hend : s.atEnd = false) (h : s.step = .ok t) :
    t.rest.length < s.rest.length := by
  unfold step at h
  split at h
  · rename_i hrest
    simp [atEnd, hrest] at hend
  · rename_i c cs hrest
    split at h
    · cases h
    · rename_i l hl
      cases h
      obtain ⟨more, rest, htext, -⟩ := Lexeme.leading?_eq_some hl
      rw [take_rest, hrest, htext]
      exact length_settle_lt (by rw [Text.byteLength_cons]; omega)

/-- Takes lexemes up to the end of the text, and closes the tokens found with
the end sentinel.  The first character that starts no lexeme is reported. -/
def run (s : Scanner) : Except Diagnostic (List Token) :=
  if _hend : s.atEnd then
    .ok (s.push .eof).found.reverse
  else
    match _hstep : s.step with
    | .error d => .error d
    | .ok t => t.run
termination_by s.rest.length
decreasing_by exact rest_step_lt (by simpa using _hend) _hstep

end Scanner

/-- The tokens of a source text, closed by the end sentinel. -/
def Token.scan (source : String) : Except Diagnostic (List Token) :=
  (Scanner.ofSource source).run

end Arith
