import Arith.Proofs.Derivation
import Arith.Session

/-!
# What decides a reading

What a reading gives is decided by the tokens that it passes and the one that it stops
at.  Wherever the same tokens can be passed up to the same token it gives the same and
stops at the same place, so nothing further on was ever looked at.  Decisions are joined
as passages are, which carries them from single moves to productions and from there to
whole sessions.

Main results:

- `Cursor.Decides`: a relation is decided by a passage and the token at its end.
- `Cursor.Decides.trans`: decisions of two passages in a row are joined.
- `Production.IsLocal`: a reading that its passage decides.
- `Phrase.run_isLocal`: the reading of every phrase is local.
- `Cursor.take_decides`, `Cursor.session_decides`: what steps and sessions answer.
-/

namespace Arith

namespace Cursor

/-! ## What a passage decides -/

/-- A passage decides a relation between its ends if that holds wherever the same tokens
are passed up to the same token, whatever stands after it. -/
def Decides (c d : Cursor) (Q : Cursor → Cursor → Prop) : Prop :=
  ∃ us, c.Passes us d ∧ ∀ c' d', c'.Passes us d' → d'.current = d.current → Q c' d'

namespace Decides

variable {c m d : Cursor} {P Q R : Cursor → Cursor → Prop}

/-- Without a move only the current token decides. -/
theorem refl (h : ∀ c' : Cursor, c'.current = c.current → Q c' c') : c.Decides c Q := by
  refine ⟨[], .refl c, ?_⟩
  intro c' d' hpasses hcurrent
  have hsame : c' = d' := passes_nil_iff.1 hpasses
  subst hsame
  exact h c' hcurrent

/-- A single move decides by the token that it passes. -/
theorem next (hnext : c.next? = some d)
    (h : ∀ c' d' : Cursor, c'.next? = some d' → c'.current = c.current → Q c' d') :
    c.Decides d Q := by
  refine ⟨[c.current], passes_of_next? hnext, ?_⟩
  intro c' d' hpasses _
  rcases passes_cons_iff.1 hpasses with ⟨hcurrent, n, hn, hrest⟩
  have hsame : n = d' := passes_nil_iff.1 hrest
  subst hsame
  exact h c' n hn hcurrent

/-- Decisions of two passages in a row are joined. -/
theorem trans (hleft : c.Decides m P) (hright : m.Decides d R)
    (h : ∀ c' m' d', P c' m' → R m' d' → Q c' d') : c.Decides d Q := by
  rcases hleft with ⟨us, hus, hP⟩
  rcases hright with ⟨vs, hvs, hR⟩
  refine ⟨us ++ vs, hus.trans hvs, ?_⟩
  intro c' d' hpasses hcurrent
  rcases passes_append_iff.1 hpasses with ⟨m', hus', hvs'⟩
  -- The second passage starts at the token at which the first has to stop.
  have hmiddle : m'.current = m.current := hvs.current_eq hvs' hcurrent
  exact h c' m' d' (hP c' m' hus' hmiddle) (hR m' d' hvs' hcurrent)

/-- What is decided may be weakened. -/
theorem mono (hP : c.Decides d P) (h : ∀ c' d', P c' d' → Q c' d') : c.Decides d Q := by
  rcases hP with ⟨us, hus, hP⟩
  refine ⟨us, hus, ?_⟩
  intro c' d' hpasses hcurrent
  exact h c' d' (hP c' d' hpasses hcurrent)

/-- A passage decides the token that it starts at, and what it leaves behind up to what
was behind before. -/
theorem ends (hQ : c.Decides d Q) :
    c.Decides d fun c' d' =>
      Q c' d' ∧ c'.current = c.current ∧ (c'.behind = c.behind → d'.behind = d.behind) := by
  rcases hQ with ⟨us, hus, hQ⟩
  refine ⟨us, hus, ?_⟩
  intro c' d' hpasses hcurrent
  refine ⟨hQ c' d' hpasses hcurrent, hus.current_eq hpasses hcurrent, ?_⟩
  intro hbehind
  rw [hus.behind_eq, hpasses.behind_eq, hbehind]

/-- A passage keeps the sequence. -/
theorem tokens_eq (hQ : c.Decides d Q) : d.tokens = c.tokens := by
  rcases hQ with ⟨us, hus, -⟩
  exact hus.tokens_eq

end Decides

/-! ## Single moves -/

/-- Whether the cursor is at an end is decided by the current token. -/
theorem atEnd_eq_of_current {c c' : Cursor} (hcurrent : c'.current = c.current) :
    c'.atEnd = c.atEnd := by
  rw [atEnd, atEnd, hcurrent]

/-- Whether the cursor can move is decided by the current token. -/
theorem next?_eq_none_of_current {c c' : Cursor} (hnext : c.next? = none)
    (hcurrent : c'.current = c.current) : c'.next? = none := by
  rw [next?_eq_none_iff] at hnext ⊢
  rw [atEnd_eq_of_current hcurrent, hnext]

/-- Whether a token is accepted is decided by that token. -/
theorem accept?_eq_none_of_current {c c' : Cursor} {kinds : List Kind}
    (haccept : c.accept? kinds = none) (hcurrent : c'.current = c.current) :
    c'.accept? kinds = none := by
  cases haccept' : c'.accept? kinds with
  | none => rfl
  | some d' =>
    rcases accept?_eq_some_iff.1 haccept' with ⟨hkind, hnext'⟩
    cases hnext : c.next? with
    | none =>
      rw [next?_eq_none_of_current hnext hcurrent] at hnext'
      contradiction
    | some d =>
      rw [hcurrent] at hkind
      rw [accept?_eq_some_iff.2 ⟨hkind, hnext⟩] at haccept
      contradiction

/-- A token that is accepted is accepted wherever it stands. -/
theorem decides_of_accept? {c d : Cursor} {kinds : List Kind}
    (haccept : c.accept? kinds = some d) :
    c.Decides d fun c' d' => c'.accept? kinds = some d' ∧ c'.current = c.current := by
  rcases accept?_eq_some_iff.1 haccept with ⟨hkind, hnext⟩
  apply Decides.next hnext
  intro c' d' hnext' hcurrent
  rw [← hcurrent] at hkind
  exact ⟨accept?_eq_some_iff.2 ⟨hkind, hnext'⟩, hcurrent⟩

end Cursor

namespace Production

open Cursor

variable {α β : Type}

/-! ## Local readings -/

/-- A reading is local if its passage decides what it gives. -/
def IsLocal (f : Cursor → Outcome α) : Prop :=
  ∀ c : Cursor, c.Decides (f c).cursor fun c' d' => f c' = ⟨(f c).result, d'⟩

/-- What a local reading gives may be mapped. -/
theorem IsLocal.map {f : Cursor → Outcome α} (hf : IsLocal f) (g : α → β) :
    IsLocal fun c => (f c).map g := by
  intro c
  apply (hf c).mono
  intro c' d' hrun
  simp only [hrun]
  rfl

/-- The reading of a number is local. -/
theorem primary_isLocal : IsLocal primary.run := by
  intro c
  cases haccept : c.accept? [.number] with
  | none =>
    simp only [primary, haccept]
    apply Decides.refl
    intro c' hcurrent
    simp only [accept?_eq_none_of_current haccept hcurrent, hcurrent]
  | some d =>
    simp only [primary, haccept]
    apply (decides_of_accept? haccept).mono
    intro c' d' h
    simp only [h.1, h.2]

section Chain

variable {level : Level} {operand : Production Expr}

/-- A chain over a local operand is local. -/
theorem chain_isLocal (hoperand : IsLocal operand.run) (left : Expr) :
    IsLocal (chain level operand left) := by
  intro c
  fun_induction chain level operand left c with
  | case1 left c haccept =>
    apply Decides.refl
    intro c' hcurrent
    exact chain_of_accept?_eq_none (accept?_eq_none_of_current haccept hcurrent)
  | case2 left c n haccept g stop hright =>
    have hstop := hoperand n
    rw [hright] at hstop
    apply (decides_of_accept? haccept).trans hstop
    intro c' n' d' haccept' hright'
    exact chain_of_run_eq_error haccept'.1 hright'
  | case3 left c n haccept right next hright ih =>
    have hnext := hoperand n
    rw [hright] at hnext
    -- Past the operator and its right operand the chain is the same on both sides.
    have hstep : c.Decides next fun c' m' =>
        chain level operand left c' = chain level operand (.binary left c.current right) m' := by
      apply (decides_of_accept? haccept).trans hnext
      intro c' n' m' haccept' hright'
      rw [chain_of_run_eq_ok haccept'.1 hright', haccept'.2]
    apply hstep.trans ih
    intro c' m' d' hleft hrest
    rw [hleft, hrest]

/-- A level fails where its first operand does. -/
theorem leftAssoc_run_of_error {c d : Cursor} {g : Diagnostic}
    (hleft : operand.run c = ⟨.error g, d⟩) :
    (leftAssoc level operand).run c = ⟨.error g, d⟩ := by
  simp [leftAssoc, hleft]

/-- A level over a local operand is local. -/
theorem leftAssoc_isLocal (hoperand : IsLocal operand.run) :
    IsLocal (leftAssoc level operand).run := by
  intro c
  have hfirst := hoperand c
  rcases hrun : operand.run c with ⟨g | left, n⟩
  · rw [hrun] at hfirst
    rw [leftAssoc_run_of_error hrun]
    apply hfirst.mono
    intro c' d' hrun'
    exact leftAssoc_run_of_error hrun'
  · rw [hrun] at hfirst
    rw [leftAssoc_run_of_ok hrun]
    apply hfirst.trans (chain_isLocal hoperand left n)
    intro c' n' d' hrun' hchain
    rw [leftAssoc_run_of_ok hrun', hchain]

end Chain

/-- The reading of a multiplication is local. -/
theorem multiplication_isLocal : IsLocal multiplication.run :=
  leftAssoc_isLocal primary_isLocal

/-- The reading of an addition is local. -/
theorem addition_isLocal : IsLocal addition.run :=
  leftAssoc_isLocal multiplication_isLocal

/-- The reading of an expression as a statement is local. -/
theorem expressionStatement_isLocal : IsLocal expressionStatement.run :=
  addition_isLocal.map Statement.mk

/-- The reading of a statement is local. -/
theorem statement_isLocal : IsLocal statement.run := by
  intro c
  by_cases hnumber : c.current.kind = .number
  · simp only [statement, if_pos hnumber]
    apply (expressionStatement_isLocal c).ends.mono
    intro c' d' h
    rcases h with ⟨hrun, hcurrent, -⟩
    rw [hcurrent, if_pos hnumber, hrun]
  · simp only [statement, if_neg hnumber]
    apply Decides.refl
    intro c' hcurrent
    rw [hcurrent, if_neg hnumber]

/-- The reading of statements is local. -/
theorem statements_isLocal (read : List Statement) : IsLocal (statements read) := by
  intro c
  fun_induction statements read c with
  | case1 read c hend =>
    apply Decides.refl
    intro c' hcurrent
    rw [← atEnd_eq_of_current hcurrent] at hend
    exact statements_of_atEnd hend
  | case2 read c hend g stop hstatement =>
    have hstop := statement_isLocal c
    rw [hstatement] at hstop
    apply hstop.ends.mono
    intro c' d' h
    rcases h with ⟨hrun, hcurrent, -⟩
    rw [← atEnd_eq_of_current hcurrent, Bool.not_eq_true] at hend
    exact statements_of_run_eq_error hend hrun
  | case3 read c hend s next hstatement ih =>
    have hnext := statement_isLocal c
    rw [hstatement] at hnext
    apply hnext.ends.trans ih
    intro c' m' d' h hrest
    rcases h with ⟨hrun, hcurrent, -⟩
    rw [← atEnd_eq_of_current hcurrent, Bool.not_eq_true] at hend
    rw [statements_of_run_eq_ok hend hrun, hrest]

/-- The reading of a program is local. -/
theorem program_isLocal : IsLocal program :=
  (statements_isLocal []).map Program.mk

end Production

/-- The reading of every phrase is local. -/
theorem Phrase.run_isLocal (phrase : Phrase) : Production.IsLocal phrase.run := by
  cases phrase with
  | program => exact Production.program_isLocal.map _
  | statement => exact Production.statement_isLocal.map _
  | expressionStatement => exact Production.expressionStatement_isLocal.map _
  | expression => exact Production.addition_isLocal.map _
  | addition => exact Production.addition_isLocal.map _
  | multiplication => exact Production.multiplication_isLocal.map _
  | primary => exact Production.primary_isLocal.map _

namespace Cursor

/-! ## Steps and sessions -/

/-- The cursor that a session leaves. -/
def after (c : Cursor) : List Step → Cursor
  | [] => c
  | s :: ss => (c.take s).2.after ss

/-- What a session answers, each answer with the index at which it leaves the cursor. -/
def log (c : Cursor) (ss : List Step) : List (Answer × Nat) :=
  (c.session ss).map fun x => (x.1, x.2.position)

/-- The answer to a move is decided by its passage, and by what is behind the cursor: the
token just passed may have been passed by an earlier step. -/
theorem perform_decides (c : Cursor) (m : Move) :
    c.Decides (c.perform m).2 fun c' d' =>
      c'.behind = c.behind → c'.perform m = ((c.perform m).1, d') := by
  cases m with
  | peek =>
    apply Decides.refl
    intro c' hcurrent _
    simp [perform, hcurrent]
  | previous =>
    apply Decides.refl
    intro c' hcurrent hbehind
    simp [perform, previous, hcurrent, hbehind]
  | advance =>
    cases hnext : c.next? with
    | none =>
      simp only [perform, advance, hnext]
      apply Decides.refl
      intro c' hcurrent hbehind
      simp [next?_eq_none_of_current hnext hcurrent, previous, hcurrent, hbehind]
    | some d =>
      simp only [perform, advance, hnext]
      apply Decides.next hnext
      intro c' d' hnext' hcurrent _
      simp [hnext', next?_previous hnext, next?_previous hnext', hcurrent]
  | check kind =>
    apply Decides.refl
    intro c' hcurrent _
    simp [perform, check, atEnd, hcurrent]
  | accept kinds =>
    cases haccept : c.accept? kinds with
    | none =>
      simp only [perform, haccept]
      apply Decides.refl
      intro c' hcurrent _
      simp [accept?_eq_none_of_current haccept hcurrent]
    | some d =>
      simp only [perform, haccept]
      apply (decides_of_accept? haccept).mono
      intro c' d' h _
      simp [h.1]
  | atEnd =>
    apply Decides.refl
    intro c' hcurrent _
    simp [perform, atEnd, hcurrent]

/-- The answer to a step is decided by its passage, and by what is behind the cursor. -/
theorem take_decides (c : Cursor) (s : Step) :
    c.Decides (c.take s).2 fun c' d' =>
      c'.behind = c.behind → c'.take s = ((c.take s).1, d') := by
  cases s with
  | move m =>
    apply (perform_decides c m).mono
    intro c' d' h hbehind
    simp [take, h hbehind]
  | kind =>
    apply Decides.refl
    intro c' hcurrent _
    simp [take, hcurrent]
  | phrase p =>
    apply (p.run_isLocal c).mono
    intro c' d' hrun _
    simp [take, hrun]

/-- What a session answers is decided by its passage, and by what is behind the
cursor. -/
theorem session_decides (c : Cursor) (ss : List Step) :
    c.Decides (c.after ss) fun c' d' =>
      c'.behind = c.behind → c'.after ss = d' ∧ c'.log ss = c.log ss := by
  induction ss generalizing c with
  | nil =>
    apply Decides.refl
    intro c' _ _
    exact ⟨rfl, rfl⟩
  | cons s ss ih =>
    apply (take_decides c s).ends.trans (ih (c.take s).2)
    intro c' m' d' h hrest hbehind
    rcases h with ⟨htake, -, hends⟩
    have hstep := htake hbehind
    have hmiddle := hends hbehind
    rcases hrest hmiddle with ⟨hafter, hlog⟩
    have hposition : m'.position = (c.take s).2.position := by simp [position, hmiddle]
    constructor
    · rw [after, hstep, hafter]
    · simp only [log, session, List.map_cons, hstep, hposition]
      exact congrArg _ hlog

end Cursor

end Arith
