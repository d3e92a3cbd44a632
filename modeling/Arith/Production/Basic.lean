import Arith.Cursor

/-!
# Productions

A production reads a phrase from the tokens at a cursor.  It may fail, and it
then leaves the cursor where it failed, so that reading can go on from there.

Main results:

- `Outcome`: what a reading gives and where it leaves the cursor.
- `Production`: a reading that never goes back and that passes at least one
  token when it succeeds, which is what repetition needs to end.
- `Production.map`: a production followed by a function on what it gives.
-/

namespace Arith

/-- What a reading gives, and the cursor that it leaves. -/
structure Outcome (α : Type) where
  result : Except Diagnostic α
  cursor : Cursor

/-- A reading of tokens that never goes back, and goes on when it succeeds. -/
structure Production (α : Type) where
  /-- Reads a phrase at a cursor. -/
  run : Cursor → Outcome α
  /-- No reading goes back. -/
  remaining_le : ∀ c, (run c).cursor.remaining ≤ c.remaining
  /-- A reading that succeeds passes at least one token. -/
  remaining_lt : ∀ c a, (run c).result = .ok a → (run c).cursor.remaining < c.remaining

namespace Outcome

variable {α β : Type}

/-- Applies a function to what a reading gives. -/
def map (f : α → β) (o : Outcome α) : Outcome β :=
  ⟨o.result.map f, o.cursor⟩

@[simp]
theorem map_cursor (f : α → β) (o : Outcome α) : (o.map f).cursor = o.cursor :=
  rfl

@[simp]
theorem map_result (f : α → β) (o : Outcome α) : (o.map f).result = o.result.map f :=
  rfl

end Outcome

namespace Production

variable {α β : Type}

/-- No reading goes back, whatever it gives. -/
theorem remaining_le_of_run_eq (p : Production α) {c d : Cursor} {r : Except Diagnostic α}
    (h : p.run c = ⟨r, d⟩) : d.remaining ≤ c.remaining := by
  simpa [h] using p.remaining_le c

/-- A reading that gives something passes at least one token. -/
theorem remaining_lt_of_run_eq (p : Production α) {c d : Cursor} {a : α}
    (h : p.run c = ⟨.ok a, d⟩) : d.remaining < c.remaining := by
  simpa [h] using p.remaining_lt c a

/-- A production followed by a function on what it gives. -/
def map (f : α → β) (p : Production α) : Production β where
  run c := (p.run c).map f
  remaining_le := p.remaining_le
  remaining_lt c b h := by
    cases hresult : (p.run c).result with
    | error d => simp [hresult, Except.map] at h
    | ok a => exact p.remaining_lt c a hresult

@[simp]
theorem map_run (f : α → β) (p : Production α) (c : Cursor) :
    (p.map f).run c = (p.run c).map f :=
  rfl

end Production

end Arith
