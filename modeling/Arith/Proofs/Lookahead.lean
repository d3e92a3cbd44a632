import Arith.Proofs.Locality

/-!
# One token of lookahead

A session on one sequence is repeated on every other sequence that agrees with it up to
the token at which the session ends.

Main results:

- `SameUpTo`: two sequences agree up to an index.
- `Cursor.Decides.exists_of_sameUpTo`: what a passage decides carries over.
- `Program.ofTokens_eq_of_sameUpTo`: so does the program, or the report.
- `Cursor.session_lookahead`: sequences that agree up to where a session ends cannot be
  told apart by it.
-/

namespace Arith

/-! ## Sequences that agree -/

/-- Two sequences have the same tokens up to an index, that one included. -/
def SameUpTo (k : Nat) (ts ts' : List Token) : Prop :=
  ∀ i ≤ k, ts[i]? = ts'[i]?

/-- Sequences that agree up to an index agree up to a smaller one. -/
theorem SameUpTo.mono {k n : Nat} {ts ts' : List Token} (h : SameUpTo n ts ts') (hk : k ≤ n) :
    SameUpTo k ts ts' := by
  intro i hi
  exact h i (Nat.le_trans hi hk)

/-- A sequence that agrees with another one up to a token goes on to that token in the
same way. -/
theorem SameUpTo.exists_eq_append {us rest ts' : List Token} {t : Token}
    (h : SameUpTo us.length (us ++ t :: rest) ts') : ∃ rest', ts' = us ++ t :: rest' := by
  induction us generalizing ts' with
  | nil =>
    have hhead := h 0 (Nat.le_refl 0)
    cases ts' with
    | nil => simp at hhead
    | cons t' rest' =>
      have ht : t = t' := by simpa using hhead
      exact ⟨rest', by rw [ht]; rfl⟩
  | cons u us ih =>
    have hhead := h 0 (Nat.zero_le _)
    cases ts' with
    | nil => simp at hhead
    | cons u' us' =>
      have hu : u = u' := by simpa using hhead
      have htail : SameUpTo us.length (us ++ t :: rest) us' := by
        intro i hi
        simpa using h (i + 1) (Nat.succ_le_succ hi)
      rcases ih htail with ⟨rest', hrest⟩
      exact ⟨rest', by rw [hu, hrest]; rfl⟩

/-- What a passage over one sequence decides holds of another sequence that agrees up to
where the passage ends. -/
theorem Cursor.Decides.exists_of_sameUpTo {c c' d : Cursor} {Q : Cursor → Cursor → Prop}
    {ts ts' : List Token} (h : c.Decides d Q) (hc : ofTokens ts = .ok c)
    (hc' : ofTokens ts' = .ok c') (hsame : SameUpTo d.position ts ts') :
    ∃ d', Q c' d' ∧ d'.position = d.position := by
  rcases h with ⟨us, hus, hQ⟩
  have hinput : c.input = ts := (ofTokens_eq_ok_iff.1 hc).2
  have hinput' : c'.input = ts' := (ofTokens_eq_ok_iff.1 hc').2
  have hstart : c.position = 0 := (start_of_ofTokens hc).2
  have hstart' : c'.position = 0 := (start_of_ofTokens hc').2
  rw [hus.position_eq, hstart, Nat.zero_add, ← hinput, hus.input_eq] at hsame
  rcases hsame.exists_eq_append with ⟨rest', hts'⟩
  rcases exists_passes (hinput'.trans hts') hus.kind_ne_eof with ⟨d', hpasses, hd'⟩
  have hcurrent : d'.current = d.current := (List.cons.inj hd').1
  refine ⟨d', hQ c' d' hpasses hcurrent, ?_⟩
  rw [hpasses.position_eq, hus.position_eq, hstart, hstart']

/-- The report of a program that cannot be read points at the token at which reading
stops. -/
theorem Production.token_of_program_eq_error {c d : Cursor} {g : Diagnostic}
    (hrun : program c = ⟨.error g, d⟩) : g.token = some d.current := by
  rcases statements_error (Outcome.map_eq_error_iff.1 hrun) with ⟨-, rfl, rfl⟩ | ⟨rfl, -⟩
  · rfl
  · rfl

namespace Program

/-- Sequences that agree up to where reading stops have the same program, or the same
report. -/
theorem ofTokens_eq_of_sameUpTo {ts ts' : List Token} {c c' : Cursor}
    (hc : Cursor.ofTokens ts = .ok c) (hc' : Cursor.ofTokens ts' = .ok c')
    (hsame : SameUpTo (Production.program c).cursor.position ts ts') :
    ofTokens ts' = ofTokens ts := by
  rcases (Production.program_isLocal c).exists_of_sameUpTo hc hc' hsame with ⟨d', hrun, -⟩
  rw [ofTokens_eq_result hc, ofTokens_eq_result hc', hrun]

end Program

namespace Cursor

/-- Reading a program from the first token stops at the first end token or before. -/
theorem position_program_le {ts : List Token} {c : Cursor} (hc : ofTokens ts = .ok c) :
    (Production.program c).cursor.position ≤ endIndex ts := by
  rcases ofTokens_eq_ok_iff.1 hc with ⟨hbehind, hinput⟩
  rcases Production.program_isLocal c with ⟨us, hus, -⟩
  rw [← hinput]
  exact hus.position_le_endIndex hbehind

/-- A session has one token of lookahead and no more: of two closed sequences that agree
up to the index at which it ends on the first, the second is answered as the first is,
step by step, and the session ends at the same index.  In particular nothing after the
first end token has a part in the program that is read, and where that fails nothing
after the token that is reported has a part in the report. -/
theorem session_lookahead {ts ts' : List Token} (hts : ∃ e ∈ ts.getLast?, e.kind = .eof)
    (hts' : ∃ e ∈ ts'.getLast?, e.kind = .eof) :
    ∃ c c', ofTokens ts = .ok c ∧ ofTokens ts' = .ok c' ∧
      (∀ ss, SameUpTo (c.after ss).position ts ts' →
        c'.log ss = c.log ss ∧ (c'.after ss).position = (c.after ss).position) ∧
      (SameUpTo (endIndex ts) ts ts' → Program.ofTokens ts' = Program.ofTokens ts) ∧
      ∀ g, Program.ofTokens ts = .error g →
        g.token = some (Production.program c).cursor.current ∧
          (SameUpTo (Production.program c).cursor.position ts ts' →
            Program.ofTokens ts' = .error g) := by
  rcases ofTokens_of_closed (closed_iff.2 hts) with ⟨c, hc, -⟩
  rcases ofTokens_of_closed (closed_iff.2 hts') with ⟨c', hc', -⟩
  refine ⟨c, c', hc, hc', ?_, ?_, ?_⟩
  · intro ss hsame
    have hbehind : c'.behind = c.behind := by
      rw [(ofTokens_eq_ok_iff.1 hc).1, (ofTokens_eq_ok_iff.1 hc').1]
    rcases (session_decides c ss).exists_of_sameUpTo hc hc' hsame with ⟨d', hd', hposition⟩
    rcases hd' hbehind with ⟨hafter, hlog⟩
    rw [hafter]
    exact ⟨hlog, hposition⟩
  · intro hsame
    exact Program.ofTokens_eq_of_sameUpTo hc hc' (hsame.mono (position_program_le hc))
  · intro g hg
    rw [Program.ofTokens_eq_result hc] at hg
    constructor
    · apply Production.token_of_program_eq_error
      rw [← hg]
    · intro hsame
      rw [Program.ofTokens_eq_of_sameUpTo hc hc' hsame, Program.ofTokens_eq_result hc, hg]

/-- After a missing operand a session goes on where the reading failed, and neither it
nor the report of the whole sequence depends on what stands after the first end token. -/
theorem session_lookahead_missing_operand :
    ∃ c c',
      ofTokens [.number "1", ⟨.plus, "+"⟩, ⟨.star, "*"⟩, .eof, .number "2", .eof] = .ok c ∧
      ofTokens [.number "1", ⟨.plus, "+"⟩, ⟨.star, "*"⟩, .eof, .eof] = .ok c' ∧
      (c.after [.phrase .statement, .move .previous, .phrase .primary]).position = 2 ∧
      c'.log [.phrase .statement, .move .previous, .phrase .primary] =
        c.log [.phrase .statement, .move .previous, .phrase .primary] ∧
      (c'.after [.phrase .statement, .move .previous, .phrase .primary]).position = 2 ∧
      Program.ofTokens [.number "1", ⟨.plus, "+"⟩, ⟨.star, "*"⟩, .eof, .eof] =
        Program.ofTokens [.number "1", ⟨.plus, "+"⟩, ⟨.star, "*"⟩, .eof, .number "2", .eof] ∧
      Program.ofTokens [.number "1", ⟨.plus, "+"⟩, ⟨.star, "*"⟩, .eof, .eof] =
        .error (.illegalExpression ⟨.star, "*"⟩) := by
  have hlast : ∃ e ∈ ([.number "1", ⟨.plus, "+"⟩, ⟨.star, "*"⟩, .eof, .number "2", .eof] :
      List Token).getLast?, e.kind = .eof := ⟨.eof, rfl, rfl⟩
  have hlast' : ∃ e ∈ ([.number "1", ⟨.plus, "+"⟩, ⟨.star, "*"⟩, .eof, .eof] :
      List Token).getLast?, e.kind = .eof := ⟨.eof, rfl, rfl⟩
  have hsame : SameUpTo 3 [.number "1", ⟨.plus, "+"⟩, ⟨.star, "*"⟩, .eof, .number "2", .eof]
      [.number "1", ⟨.plus, "+"⟩, ⟨.star, "*"⟩, .eof, .eof] := by
    unfold SameUpTo
    decide
  have hread :
      Program.ofTokens [.number "1", ⟨.plus, "+"⟩, ⟨.star, "*"⟩, .eof, .number "2", .eof] =
        .error (.illegalExpression ⟨.star, "*"⟩) := by
    decide +kernel
  rcases session_lookahead hlast hlast' with ⟨c, c', hc, hc', hsession, hend, hreport⟩
  have hposition :
      (c.after [.phrase .statement, .move .previous, .phrase .primary]).position = 2 := by
    cases hc
    decide +kernel
  have hstop : (Production.program c).cursor.position = 2 := by
    cases hc
    decide +kernel
  rcases hsession [.phrase .statement, .move .previous, .phrase .primary]
    (hsame.mono (by rw [hposition]; decide)) with ⟨hlog, hafter⟩
  have hfailure := (hreport _ hread).2 (hsame.mono (by rw [hstop]; decide))
  exact ⟨c, c', hc, hc', hposition, hlog, hafter.trans hposition, hend hsame, hfailure⟩

end Cursor

end Arith
