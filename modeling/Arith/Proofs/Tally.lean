import Arith.Proofs.Bounds
import Mathlib.Data.List.Forall2

/-!
# Cursors count

All that there is to a cursor is how many tokens it has passed.  A tally keeps that number and
nothing else, next to the plain list of tokens, and answers every move from the two: the tokens
are a queue whose first end token is a sentinel that is never taken out.

Main results:

- `Tally.perform`, `Tally.trace`: what a tally answers, move by move and run by run.
- `Cursor.Counts`: a cursor stands where a tally says.
- `Cursor.Counts.perform`: a move keeps the two together, and both answer the same.
- `Cursor.trace_refines_tally`: so does every run from the first token.
-/

namespace Arith

/-! ## Tallies -/

namespace Tally

variable (ts : List Token)

/-- The token passed last, out of `passed` tokens; as long as none is passed, the first one. -/
def last? : Nat → Option Token
  | 0 => ts[0]?
  | passed + 1 => ts[passed]?

/-- The kind of the token that is next after `passed` tokens, an end token apart. -/
def kind? (passed : Nat) : Option Kind :=
  if passed < endIndex ts then ts[passed]?.map Token.kind else none

/-- One token more is passed, unless the sentinel is next. -/
def advance (passed : Nat) : Nat :=
  if passed < endIndex ts then passed + 1 else passed

/-- The answer to a move after `passed` tokens, and how many are passed after it.  There is no
answer if a token is asked for that the list does not have. -/
def perform (passed : Nat) : Cursor.Move → Option Cursor.Reply × Nat
  | .peek => (ts[passed]?.map .token, passed)
  | .previous => ((last? ts passed).map .token, passed)
  | .advance => ((last? ts (advance ts passed)).map .token, advance ts passed)
  | .check kind => (some (.flag (kind? ts passed = some kind)), passed)
  | .accept kinds =>
      if ∃ kind ∈ kinds, kind? ts passed = some kind then (some (.flag true), passed + 1)
      else (some (.flag false), passed)
  | .atEnd => (some (.flag (passed = endIndex ts)), passed)

/-- The answers to moves made in order, each with the number of tokens passed after it. -/
def trace (passed : Nat) : List Cursor.Move → List (Option Cursor.Reply × Nat)
  | [] => []
  | m :: ms => perform ts passed m :: trace (perform ts passed m).2 ms

end Tally

/-! ## The first end token -/

/-- Tokens without an end token put the first one off by their number. -/
theorem endIndex_append {us : List Token} (hus : ∀ u ∈ us, u.kind ≠ .eof) (ts : List Token) :
    endIndex (us ++ ts) = us.length + endIndex ts := by
  have hpass : ∀ u ∈ us, decide (u.kind ≠ .eof) = true := by simpa using hus
  rw [← length_body, ← length_body, body, List.takeWhile_append_of_pos hpass, List.length_append]
  rfl

/-- The first end token comes first exactly when the first token is one. -/
theorem endIndex_cons_eq_zero_iff {t : Token} {ts : List Token} :
    endIndex (t :: ts) = 0 ↔ t.kind = .eof := by
  by_cases ht : t.kind = .eof <;> simp [endIndex, List.findIdx_cons, ht]

namespace Cursor

/-! ## Cursors and tallies -/

/-- A cursor stands in a sequence after a number of tokens, none of which is an end token. -/
structure Counts (ts : List Token) (passed : Nat) (c : Cursor) : Prop where
  tokens : c.tokens = ts
  position : c.position = passed
  kind_ne_eof : ∀ t ∈ c.behind, t.kind ≠ .eof

namespace Counts

variable {ts : List Token} {passed : Nat} {c d : Cursor}

/-- The cursor on a whole sequence has passed nothing. -/
theorem ofTokens (hc : Cursor.ofTokens ts = .ok c) : Counts ts 0 c := by
  rcases start_of_ofTokens hc with ⟨htokens, hposition⟩
  refine ⟨htokens, hposition, ?_⟩
  rw [(ofTokens_eq_ok_iff.1 hc).1]
  simp

/-- The current token is the next one. -/
theorem current_eq (h : Counts ts passed c) : ts[passed]? = some c.current := by
  rw [← h.tokens, ← h.position]
  exact Indexed.getElem?_position c

/-- The token just passed is the last one. -/
theorem previous_eq (h : Counts ts passed c) : Tally.last? ts passed = some c.previous := by
  have hprevious := Indexed.getElem?_position_sub_one c
  rw [h.tokens, h.position] at hprevious
  cases passed with
  | zero => exact hprevious
  | succ passed => exact hprevious

/-- The first end token is not before the current token. -/
theorem endIndex_eq (h : Counts ts passed c) : endIndex ts = passed + endIndex c.input := by
  have hbehind : ∀ t ∈ c.behind.reverse, t.kind ≠ .eof := by simpa using h.kind_ne_eof
  have hsplit := endIndex_append hbehind c.input
  rwa [List.length_reverse, show c.behind.length = passed from h.position,
    show c.behind.reverse ++ c.input = ts from h.tokens] at hsplit

/-- A cursor is at an end token exactly when all tokens before the first one are passed. -/
theorem atEnd_iff (h : Counts ts passed c) : c.atEnd = true ↔ passed = endIndex ts := by
  have hend : endIndex c.input = 0 ↔ c.atEnd = true := by
    rw [atEnd, decide_eq_true_eq]
    exact endIndex_cons_eq_zero_iff
  rw [← hend, h.endIndex_eq]
  omega

/-- A cursor is not at an end token exactly as long as there is a token before the first one. -/
theorem open_iff (h : Counts ts passed c) : c.atEnd = false ↔ passed < endIndex ts := by
  rw [← Bool.not_eq_true, h.atEnd_iff, h.endIndex_eq]
  omega

/-- The kind of the current token is that of the next one, an end token apart. -/
theorem kind?_eq_some_iff (h : Counts ts passed c) {kind : Kind} :
    Tally.kind? ts passed = some kind ↔ c.atEnd = false ∧ c.current.kind = kind := by
  rw [h.open_iff, Tally.kind?, h.current_eq]
  split <;> simp_all

/-- A move passes one token more. -/
theorem next (h : Counts ts passed c) (hnext : c.next? = some d) : Counts ts (passed + 1) d := by
  rcases next?_eq_some_iff.1 hnext with ⟨hopen, hbehind, -⟩
  refine ⟨(next?_tokens hnext).trans h.tokens, ?_, ?_⟩
  · rw [next?_position hnext, h.position]
  · intro t ht
    rw [hbehind] at ht
    rcases List.mem_cons.1 ht with rfl | ht
    · simpa [atEnd] using hopen
    · exact h.kind_ne_eof t ht

/-- A cursor advances as the tally does. -/
theorem advance (h : Counts ts passed c) : Counts ts (Tally.advance ts passed) c.advance := by
  unfold Tally.advance Cursor.advance
  cases hnext : c.next? with
  | none =>
    have hend := h.atEnd_iff.1 (next?_eq_none_iff.1 hnext)
    rw [if_neg (by omega)]
    exact h
  | some d =>
    rw [if_pos (h.open_iff.1 (next?_eq_some_iff.1 hnext).1)]
    exact h.next hnext

/-- A token is accepted exactly when its kind is asked for and it is no end token. -/
theorem accept?_isSome_iff (h : Counts ts passed c) (kinds : List Kind) :
    (c.accept? kinds).isSome = true ↔ ∃ kind ∈ kinds, Tally.kind? ts passed = some kind := by
  simp only [h.kind?_eq_some_iff, Option.isSome_iff_exists, accept?_eq_some_iff]
  constructor
  · intro hsome
    rcases hsome with ⟨d, hkind, hnext⟩
    exact ⟨_, hkind, (next?_eq_some_iff.1 hnext).1, rfl⟩
  · intro hkind
    rcases hkind with ⟨kind, hmem, hopen, rfl⟩
    cases hnext : c.next? with
    | none => simp [next?_eq_none_iff.1 hnext] at hopen
    | some d => exact ⟨d, hmem, rfl⟩

/-- A move is answered as by the tally, and the cursor stands where that says after it. -/
theorem perform (h : Counts ts passed c) (m : Move) :
    some (c.perform m).1 = (Tally.perform ts passed m).1 ∧
      Counts ts (Tally.perform ts passed m).2 (c.perform m).2 := by
  cases m with
  | peek => exact ⟨by rw [Tally.perform, h.current_eq]; rfl, h⟩
  | previous => exact ⟨by rw [Tally.perform, h.previous_eq]; rfl, h⟩
  | advance => exact ⟨by rw [Tally.perform, h.advance.previous_eq]; rfl, h.advance⟩
  | check kind =>
    refine ⟨?_, h⟩
    simp [Cursor.perform, Tally.perform, check, h.kind?_eq_some_iff]
  | accept kinds =>
    have hiff := h.accept?_isSome_iff kinds
    cases haccept : c.accept? kinds with
    | none =>
      have hnone : ¬ ∃ kind ∈ kinds, Tally.kind? ts passed = some kind := by
        rw [← hiff, haccept]
        simp
      rw [Tally.perform, if_neg hnone]
      simp only [Cursor.perform, haccept]
      exact ⟨rfl, h⟩
    | some d =>
      have hsome : ∃ kind ∈ kinds, Tally.kind? ts passed = some kind := by
        rw [← hiff, haccept]
        rfl
      rw [Tally.perform, if_pos hsome]
      simp only [Cursor.perform, haccept]
      exact ⟨rfl, h.next (accept?_eq_some_iff.1 haccept).2⟩
  | atEnd =>
    refine ⟨?_, h⟩
    simp [Cursor.perform, Tally.perform, ← h.atEnd_iff]

/-- A run is answered as by the tally, move by move. -/
theorem trace_eq (h : Counts ts passed c) (ms : List Move) :
    ((c.trace ms).map fun x => (some x.1, x.2.position)) = Tally.trace ts passed ms := by
  induction ms generalizing passed c with
  | nil => rfl
  | cons m ms ih =>
    rcases h.perform m with ⟨hanswer, hnext⟩
    have hhead : (some (c.perform m).1, (c.perform m).2.position) = Tally.perform ts passed m := by
      rw [hanswer, hnext.position]
    simp only [Cursor.trace, Tally.trace, List.map_cons, hhead, ih hnext]

/-- Every cursor of a run stands after some number of tokens. -/
theorem of_mem_trace (h : Counts ts passed c) {ms : List Move} {x : Reply × Cursor}
    (hx : x ∈ c.trace ms) : Counts ts x.2.position x.2 := by
  induction ms generalizing passed c with
  | nil => simp [Cursor.trace] at hx
  | cons m ms ih =>
    have hnext := (h.perform m).2
    rcases List.mem_cons.1 hx with rfl | hx
    · rwa [hnext.position]
    · exact ih hnext hx

end Counts

/-! ## Runs that come to the same -/

/-- No move leaves an end token. -/
theorem perform_of_atEnd {c : Cursor} (hend : c.atEnd = true) (m : Move) : (c.perform m).2 = c := by
  have hnext : c.next? = none := next?_eq_none_iff.2 hend
  cases m with
  | advance => simp [perform, advance, hnext]
  | accept kinds => simp [perform, accept?, hnext]
  | _ => rfl

/-- No run leaves an end token. -/
theorem trace_of_atEnd {c : Cursor} (hend : c.atEnd = true) {ms : List Move} {x : Reply × Cursor}
    (hx : x ∈ c.trace ms) : x.2 = c := by
  induction ms with
  | nil => simp [trace] at hx
  | cons m ms ih =>
    rw [trace, perform_of_atEnd hend m] at hx
    rcases List.mem_cons.1 hx with rfl | hx
    · exact perform_of_atEnd hend m
    · exact ih hx

/-- Moves that differ in nothing but the order and the repetition of the kinds they ask for. -/
inductive Move.Alike : Move → Move → Prop
  | refl (m : Move) : Alike m m
  | accept {kinds kinds' : List Kind} (h : ∀ kind, kind ∈ kinds ↔ kind ∈ kinds') :
      Alike (.accept kinds) (.accept kinds')

/-- Which kinds are asked for matters, and not in which order or how often. -/
theorem perform_of_alike {m m' : Move} (h : m.Alike m') (c : Cursor) :
    c.perform m' = c.perform m := by
  cases h with
  | refl => rfl
  | @accept kinds kinds' h =>
    have hany : kinds'.any c.check = kinds.any c.check := by
      rw [Bool.eq_iff_iff, List.any_eq_true, List.any_eq_true]
      simp only [h]
    simp [perform, accept?, hany]

/-- Runs of moves that come to the same give the same. -/
theorem trace_of_alike {ms ms' : List Move} (h : List.Forall₂ Move.Alike ms ms') (c : Cursor) :
    c.trace ms' = c.trace ms := by
  induction h generalizing c with
  | nil => rfl
  | cons hm _ ih => rw [trace, trace, perform_of_alike hm, ih]

/-- A cursor on a closed sequence is a tally of the tokens passed.  Every run of moves from the
first token is answered as by the tally that starts at nothing, with the cursor after each move at
the index that is the tally.  Once the first end token is reached nothing moves any more, and
neither the order nor the repetition of the kinds that are asked for has a part in any answer. -/
theorem trace_refines_tally {ts : List Token} {c : Cursor} (hc : ofTokens ts = .ok c)
    (ms : List Move) :
    ((c.trace ms).map fun x => (some x.1, x.2.position)) = Tally.trace ts 0 ms ∧
      (∀ x ∈ c.trace ms, x.2.position = endIndex ts →
        ∀ more, ∀ y ∈ x.2.trace more, y.2 = x.2) ∧
      ∀ ms', List.Forall₂ Move.Alike ms ms' → c.trace ms' = c.trace ms := by
  have hcounts := Counts.ofTokens hc
  refine ⟨hcounts.trace_eq ms, ?_, ?_⟩
  · intro x hx hposition more y hy
    have hend : x.2.atEnd = true := (hcounts.of_mem_trace hx).atEnd_iff.2 hposition
    exact trace_of_atEnd hend hy
  · intro ms' halike
    exact trace_of_alike halike c

/-- An end token in the middle is the sentinel: it is not taken out, not even where its kind is
asked for, and the tokens after it are never seen. -/
theorem trace_refines_tally_inner_end :
    ∃ c, ofTokens [.number "1", ⟨.plus, "+"⟩, .eof, .number "2", .eof] = .ok c ∧
      ((c.trace [.previous, .accept [.plus, .number], .accept [.eof, .plus], .advance,
          .accept [.number, .eof], .atEnd]).map fun x => (some x.1, x.2.position)) =
        [(some (.token (.number "1")), 0), (some (.flag true), 1), (some (.flag true), 2),
          (some (.token ⟨.plus, "+"⟩), 2), (some (.flag false), 2), (some (.flag true), 2)] ∧
      c.trace [.advance, .accept [.plus, .minus, .plus]] =
        c.trace [.advance, .accept [.minus, .plus]] := by
  have hc : ofTokens [.number "1", ⟨.plus, "+"⟩, .eof, .number "2", .eof] =
      .ok ⟨[], .number "1", [⟨.plus, "+"⟩, .eof, .number "2", .eof], rfl⟩ := rfl
  have halike : List.Forall₂ Move.Alike [.advance, .accept [.minus, .plus]]
      [.advance, .accept [.plus, .minus, .plus]] :=
    .cons (.refl _) (.cons (.accept fun kind => by cases kind <;> decide) .nil)
  refine ⟨_, hc, ?_, (trace_refines_tally hc _).2.2 _ halike⟩
  rw [(trace_refines_tally hc _).1]
  decide

end Cursor

end Arith
