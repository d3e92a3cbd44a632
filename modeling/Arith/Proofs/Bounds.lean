import Arith.Proofs.Indexed
import Arith.Proofs.Locality

/-!
# Sessions stay in bounds

By index, a session does exactly what it does with a cursor.  In particular it always
has a result, so that no token outside the list is ever looked up, in whatever order its
steps are taken and wherever its readings fail.

Main results:

- `Indexed.Gives`: a computation ends without a look-up outside the list.
- `Indexed.Follows`: a computation by index does what a reading does at a cursor.
- `Indexed.chain_gives`, `Indexed.statements_gives`: the two loops.
- `Indexed.take_gives`, `Indexed.session_gives`: steps and whole sessions.
- `Cursor.session_inBounds`: sessions are safe, and the cursor only moves forward and
  up to the first end token.
-/

namespace Arith

namespace Indexed

variable {α β : Type}

/-! ## Computations that stay in the list -/

/-- A computation that starts at one index ends at another one with a result, and looks
up no token outside the list. -/
def Gives (x : Indexed α) (i : Nat) (r : Except Diagnostic α) (j : Nat) : Prop :=
  x.run.run i = some (r, j)

/-- To return does not move. -/
theorem gives_pure (a : α) (i : Nat) : Gives (pure a) i (.ok a) i :=
  rfl

/-- To report does not move. -/
theorem gives_throw (g : Diagnostic) (i : Nat) : Gives (throw g : Indexed α) i (.error g) i :=
  rfl

/-- The index can always be asked for. -/
theorem gives_get (i : Nat) : Gives (get : Indexed Nat) i (.ok i) i :=
  rfl

/-- The index can always be changed. -/
theorem gives_modify (f : Nat → Nat) (i : Nat) :
    Gives (modify f : Indexed PUnit) i (.ok ⟨⟩) (f i) :=
  rfl

/-- A token of the list can be looked up. -/
theorem gives_of_getElem? {ts : List Token} {i k : Nat} {t : Token} (h : ts[k]? = some t) :
    Gives (liftM ts[k]? : Indexed Token) i (.ok t) i := by
  rw [h]
  rfl

variable {x : Indexed α} {f : α → Indexed β} {i j k : Nat}

/-- A computation that succeeds is followed by the next one. -/
theorem Gives.bind {a : α} {r : Except Diagnostic β} (hx : Gives x i (.ok a) k)
    (hf : Gives (f a) k r j) : Gives (x >>= f) i r j := by
  unfold Gives at hx hf ⊢
  rw [ExceptT.run_bind, StateT.run_bind, hx]
  exact hf

/-- A computation that reports something is followed by no other. -/
theorem Gives.bind_error {g : Diagnostic} (hx : Gives x i (.error g) j) :
    Gives (x >>= f) i (.error g) j := by
  unfold Gives at hx ⊢
  rw [ExceptT.run_bind, StateT.run_bind, hx]
  rfl

/-- What a computation gives may be mapped. -/
theorem Gives.map {r : Except Diagnostic α} (hx : Gives x i r j) (g : α → β) :
    Gives (x >>= fun a => pure (g a)) i (r.map g) j := by
  cases r with
  | error e => exact hx.bind_error
  | ok a => exact hx.bind (gives_pure (g a) j)

/-- A report is caught where it is made. -/
theorem Gives.catch_error {h : Diagnostic → Indexed α} {g : Diagnostic}
    {r : Except Diagnostic α} (hx : Gives x i (.error g) k) (hh : Gives (h g) k r j) :
    Gives (tryCatch x h) i r j := by
  unfold Gives at hx hh ⊢
  rw [ExceptT.run_tryCatch, StateT.run_bind, hx]
  exact hh

/-- Where nothing is reported there is nothing to catch. -/
theorem Gives.catch_ok {h : Diagnostic → Indexed α} {a : α} (hx : Gives x i (.ok a) j) :
    Gives (tryCatch x h) i (.ok a) j := by
  unfold Gives at hx ⊢
  rw [ExceptT.run_tryCatch, StateT.run_bind, hx]
  rfl

/-! ## Looking and moving -/

/-- The token of a cursor stands at its index. -/
theorem getElem?_position (c : Cursor) : c.tokens[c.position]? = some c.current := by
  simp [Cursor.tokens, Cursor.position]

/-- There are fewer tokens left than there are tokens. -/
theorem remaining_lt_length (c : Cursor) : c.remaining < c.tokens.length := by
  simp only [Cursor.remaining, Cursor.tokens, List.length_append, List.length_cons]
  omega

/-- The token just passed stands before the index of a cursor. -/
theorem getElem?_position_sub_one (c : Cursor) :
    c.tokens[c.position - 1]? = some c.previous := by
  rcases c with ⟨_ | ⟨t, behind⟩, current, ahead, h⟩
  · simp [Cursor.tokens, Cursor.position, Cursor.previous]
  · simp [Cursor.tokens, Cursor.position, Cursor.previous]

variable (c : Cursor)

theorem peek_gives : Gives (peek c.tokens) c.position (.ok c.current) c.position :=
  (gives_get _).bind (gives_of_getElem? (getElem?_position c))

theorem previous_gives : Gives (previous c.tokens) c.position (.ok c.previous) c.position :=
  (gives_get _).bind (gives_of_getElem? (getElem?_position_sub_one c))

theorem atEnd_gives : Gives (atEnd c.tokens) c.position (.ok c.atEnd) c.position :=
  (peek_gives c).bind (gives_pure _ _)

theorem advance_gives :
    Gives (advance c.tokens) c.position (.ok c.advance.previous) c.advance.position := by
  have hatEnd := atEnd_gives c
  cases hnext : c.next? with
  | none =>
    rw [Cursor.next?_eq_none_iff.1 hnext] at hatEnd
    simp only [Cursor.advance, hnext]
    exact hatEnd.bind (previous_gives c)
  | some d =>
    rw [(Cursor.next?_eq_some_iff.1 hnext).1] at hatEnd
    have hprevious := previous_gives d
    rw [Cursor.next?_tokens hnext, Cursor.next?_position hnext] at hprevious
    simp only [Cursor.advance, hnext, Option.getD_some, Cursor.next?_position hnext]
    exact hatEnd.bind ((gives_modify _ _).bind hprevious)

theorem check_gives (kind : Kind) :
    Gives (check c.tokens kind) c.position (.ok (c.check kind)) c.position := by
  have hatEnd := atEnd_gives c
  cases hend : c.atEnd with
  | true =>
    rw [hend] at hatEnd
    simp only [Cursor.check, hend]
    exact hatEnd.bind (gives_pure _ _)
  | false =>
    rw [hend] at hatEnd
    simp only [Cursor.check, hend]
    exact hatEnd.bind ((peek_gives c).bind (gives_pure _ _))

theorem accept_gives (kinds : List Kind) :
    Gives (accept c.tokens kinds) c.position (.ok (c.accept? kinds).isSome)
      ((c.accept? kinds).getD c).position := by
  induction kinds with
  | nil => exact gives_pure _ _
  | cons kind kinds ih =>
    have hcheck := check_gives c kind
    -- By index the kinds are tried in order, while a cursor asks for any of them at once.
    cases hkind : c.check kind with
    | true =>
      have haccept : c.accept? (kind :: kinds) = c.next? := by
        simp [Cursor.accept?, hkind]
      have hsome : c.next?.isSome = true := by
        have hopen : c.atEnd = false := by
          simp only [Cursor.check, Bool.and_eq_true, Bool.not_eq_true'] at hkind
          exact hkind.1
        cases hnext : c.next? with
        | none => simp [Cursor.next?_eq_none_iff.1 hnext] at hopen
        | some d => rfl
      rw [hkind] at hcheck
      rw [haccept, hsome]
      exact hcheck.bind ((advance_gives c).bind (gives_pure _ _))
    | false =>
      have haccept : c.accept? (kind :: kinds) = c.accept? kinds := by
        simp [Cursor.accept?, hkind]
      rw [hkind] at hcheck
      rw [haccept]
      exact hcheck.bind ih

variable {c}

/-- Where nothing is accepted the index stays. -/
theorem accept_gives_false {kinds : List Kind} (haccept : c.accept? kinds = none) :
    Gives (accept c.tokens kinds) c.position (.ok false) c.position := by
  have hgives := accept_gives c kinds
  rwa [haccept] at hgives

/-- A token that is accepted is the one before the index after that. -/
theorem accept_gives_true {d : Cursor} {kinds : List Kind} (haccept : c.accept? kinds = some d) :
    Gives (accept c.tokens kinds) c.position (.ok true) d.position ∧
      Gives (previous c.tokens) d.position (.ok c.current) d.position := by
  have hgives := accept_gives c kinds
  rw [haccept] at hgives
  have hnext := (Cursor.accept?_eq_some_iff.1 haccept).2
  have hprevious := previous_gives d
  rw [Cursor.next?_tokens hnext, Cursor.next?_previous hnext] at hprevious
  exact ⟨hgives, hprevious⟩

/-! ## Productions -/

/-- A computation by index follows a reading: on the tokens of a cursor and from its
index it gives what the reading gives, and ends at the index of the cursor that the
reading leaves. -/
def Follows (x : List Token → Indexed α) (f : Cursor → Outcome α) : Prop :=
  ∀ c : Cursor, Gives (x c.tokens) c.position (f c).result (f c).cursor.position

/-- What both give may be mapped. -/
theorem Follows.map {x : List Token → Indexed α} {f : Cursor → Outcome α} (h : Follows x f)
    (g : α → β) : Follows (fun ts => x ts >>= fun a => pure (g a)) fun c => (f c).map g := by
  intro c
  exact (h c).map g

/-- A number is read by index as it is at a cursor. -/
theorem primary_follows : Follows primary Production.primary.run := by
  intro c
  cases haccept : c.accept? [.number] with
  | none =>
    simp only [Production.primary, haccept]
    exact (accept_gives_false haccept).bind ((peek_gives c).bind (gives_throw _ _))
  | some d =>
    simp only [Production.primary, haccept]
    rcases accept_gives_true haccept with ⟨htrue, hprevious⟩
    exact htrue.bind (hprevious.bind (gives_pure _ _))

section Chain

variable {operand : Production Expr} {x : List Token → Indexed Expr}

/-- A chain is read by index as it is at a cursor if its operand is, and in no more rounds
than there are tokens left. -/
theorem chain_gives (level : Level) (hx : Follows x operand.run)
    (hlocal : Production.IsLocal operand.run) (left : Expr) (c : Cursor) {rounds : Nat}
    (hrounds : c.remaining < rounds) :
    Gives (chain c.tokens level (x c.tokens) rounds left) c.position
      (Production.chain level operand left c).result
      (Production.chain level operand left c).cursor.position := by
  fun_induction Production.chain level operand left c generalizing rounds with
  | case1 left c haccept =>
    cases rounds with
    | zero => contradiction
    | succ rounds => exact (accept_gives_false haccept).bind (gives_pure _ _)
  | case2 left c n haccept g stop hright =>
    have hn := Cursor.next?_tokens (Cursor.accept?_eq_some_iff.1 haccept).2
    have hoperand := hx n
    rw [hright, hn] at hoperand
    rcases accept_gives_true haccept with ⟨htrue, hprevious⟩
    cases rounds with
    | zero => contradiction
    | succ rounds => exact htrue.bind (hprevious.bind hoperand.bind_error)
  | case3 left c n haccept right next hright ih =>
    have hn := Cursor.next?_tokens (Cursor.accept?_eq_some_iff.1 haccept).2
    have hnext := (hlocal n).tokens_eq
    have hoperand := hx n
    rw [hright, hn] at hoperand
    -- The operand leaves the list as it is, so that the rest looks tokens up in the same.
    rw [hright, hn] at hnext
    rw [hnext] at ih
    rcases accept_gives_true haccept with ⟨htrue, hprevious⟩
    cases rounds with
    | zero => contradiction
    | succ rounds =>
      have hless : next.remaining < rounds := by
        have hpassed := Cursor.accept?_remaining haccept
        have hread := operand.remaining_lt_of_run_eq hright
        omega
      exact htrue.bind (hprevious.bind (hoperand.bind (ih hless)))

/-- A level is read by index as it is at a cursor if its operand is. -/
theorem leftAssoc_follows {level : Level} (hx : Follows x operand.run)
    (hlocal : Production.IsLocal operand.run) :
    Follows (fun ts => leftAssoc ts level (x ts))
      (Production.leftAssoc level operand).run := by
  intro c
  have hfirst := hx c
  rcases hrun : operand.run c with ⟨g | left, n⟩
  · rw [hrun] at hfirst
    rw [Production.leftAssoc_run_of_error hrun]
    exact hfirst.bind_error
  · have hn := (hlocal c).tokens_eq
    have hrest := chain_gives level hx hlocal left n (remaining_lt_length n)
    rw [hrun] at hfirst hn
    rw [hn] at hrest
    rw [Production.leftAssoc_run_of_ok hrun]
    exact hfirst.bind hrest

end Chain

theorem multiplication_follows : Follows multiplication Production.multiplication.run :=
  leftAssoc_follows primary_follows Production.primary_isLocal

theorem addition_follows : Follows addition Production.addition.run :=
  leftAssoc_follows multiplication_follows Production.multiplication_isLocal

theorem expressionStatement_follows :
    Follows expressionStatement Production.expressionStatement.run :=
  addition_follows.map Statement.mk

/-- A statement is read by index as it is at a cursor. -/
theorem statement_follows : Follows statement Production.statement.run := by
  intro c
  refine (peek_gives c).bind ?_
  by_cases hnumber : c.current.kind = .number
  · simp only [Production.statement, if_pos hnumber]
    exact expressionStatement_follows c
  · simp only [Production.statement, if_neg hnumber]
    exact (peek_gives c).bind (gives_throw _ _)

/-- Statements are read by index as they are at a cursor, and in no more rounds than
there are tokens left. -/
theorem statements_gives (read : List Statement) (c : Cursor) {rounds : Nat}
    (hrounds : c.remaining < rounds) :
    Gives (statements c.tokens rounds read) c.position (Production.statements read c).result
      (Production.statements read c).cursor.position := by
  fun_induction Production.statements read c generalizing rounds with
  | case1 read c hend =>
    have hatEnd := atEnd_gives c
    rw [hend] at hatEnd
    cases rounds with
    | zero => contradiction
    | succ rounds => exact hatEnd.bind (gives_pure _ _)
  | case2 read c hend g stop hstatement =>
    have hatEnd := atEnd_gives c
    have hstop := statement_follows c
    rw [Bool.not_eq_true] at hend
    rw [hend] at hatEnd
    rw [hstatement] at hstop
    cases rounds with
    | zero => contradiction
    | succ rounds => exact hatEnd.bind hstop.bind_error
  | case3 read c hend s next hstatement ih =>
    have hatEnd := atEnd_gives c
    have hnext := statement_follows c
    have htokens := (Production.statement_isLocal c).tokens_eq
    rw [Bool.not_eq_true] at hend
    rw [hend] at hatEnd
    rw [hstatement] at hnext htokens
    rw [htokens] at ih
    cases rounds with
    | zero => contradiction
    | succ rounds =>
      have hless : next.remaining < rounds := by
        have hread := Production.statement.remaining_lt_of_run_eq hstatement
        omega
      exact hatEnd.bind (hnext.bind (ih hless))

/-- A program is read by index as it is at a cursor. -/
theorem program_follows : Follows program Production.program := by
  intro c
  exact (statements_gives [] c (remaining_lt_length c)).map Program.mk

/-- Every phrase is read by index as it is at a cursor. -/
theorem phrase_follows (p : Phrase) : Follows (fun ts => phrase ts p) p.run := by
  cases p with
  | program => exact program_follows.map _
  | statement => exact statement_follows.map _
  | expressionStatement => exact expressionStatement_follows.map _
  | expression => exact addition_follows.map _
  | addition => exact addition_follows.map _
  | multiplication => exact multiplication_follows.map _
  | primary => exact primary_follows.map _

/-! ## Steps and sessions -/

/-- A move is answered by index as it is at a cursor. -/
theorem perform_gives (c : Cursor) (m : Cursor.Move) :
    Gives (perform c.tokens m) c.position (.ok (c.perform m).1) (c.perform m).2.position := by
  cases m with
  | peek => exact (peek_gives c).map _
  | previous => exact (previous_gives c).map _
  | advance => exact (advance_gives c).map _
  | check kind => exact (check_gives c kind).map _
  | accept kinds => exact (accept_gives c kinds).map _
  | atEnd => exact (atEnd_gives c).map _

/-- A step is answered by index as it is at a cursor. -/
theorem take_gives (c : Cursor) (s : Cursor.Step) :
    Gives (take c.tokens s) c.position (.ok (c.take s).1) (c.take s).2.position := by
  cases s with
  | move m => exact (perform_gives c m).map _
  | kind => exact (peek_gives c).map _
  | phrase p =>
    have hphrase := phrase_follows p c
    rcases hrun : p.run c with ⟨g | n, d⟩
    · rw [hrun] at hphrase
      simp only [Cursor.take, hrun]
      exact hphrase.bind_error.catch_error (gives_pure _ _)
    · rw [hrun] at hphrase
      simp only [Cursor.take, hrun]
      exact (hphrase.map fun n => Cursor.Answer.node (.ok n)).catch_ok

/-- A session is answered by index as it is at a cursor. -/
theorem session_gives (c : Cursor) (ss : List Cursor.Step) :
    Gives (session c.tokens ss) c.position (.ok (c.log ss)) (c.after ss).position := by
  induction ss generalizing c with
  | nil => exact gives_pure _ _
  | cons s ss ih =>
    have hrest := ih (c.take s).2
    rw [(c.take_decides s).tokens_eq] at hrest
    exact (take_gives c s).bind ((gives_get _).bind (hrest.map _))

end Indexed

namespace Cursor

/-- Every cursor of a session is reached by a passage. -/
theorem passes_of_mem_session {c : Cursor} {ss : List Step} {x : Answer × Cursor}
    (hx : x ∈ c.session ss) : ∃ us, c.Passes us x.2 := by
  induction ss generalizing c with
  | nil => simp [session] at hx
  | cons s ss ih =>
    rcases take_decides c s with ⟨us, hus, -⟩
    rcases List.mem_cons.1 hx with rfl | hx
    · exact ⟨us, hus⟩
    · rcases ih hx with ⟨vs, hvs⟩
      exact ⟨us ++ vs, hus.trans hvs⟩

/-- No step of a session goes back. -/
theorem session_isChain (c : Cursor) (ss : List Step) :
    (c.position :: (c.session ss).map fun x => x.2.position).IsChain (· ≤ ·) := by
  induction ss generalizing c with
  | nil => exact .singleton _
  | cons s ss ih =>
    rcases take_decides c s with ⟨us, hus, -⟩
    have hstep : c.position ≤ (c.take s).2.position := by
      rw [hus.position_eq]
      exact Nat.le_add_right _ _
    exact List.isChain_cons_cons.2 ⟨hstep, ih (c.take s).2⟩

/-- Sessions are safe.  By index, a session on a closed sequence always has a result,
which is that of the cursor: no token outside the sequence is ever looked up.  After
every step the sequence is what it was, and the cursor stands at the first end token or
before it, and nowhere before where it stood. -/
theorem session_inBounds {ts : List Token} {c : Cursor} (hc : ofTokens ts = .ok c)
    (ss : List Step) :
    (Indexed.session ts ss).run.run 0 = some (.ok (c.log ss), (c.after ss).position) ∧
      (∀ x ∈ c.session ss, x.2.tokens = ts ∧ x.2.position ≤ endIndex ts) ∧
      (0 :: (c.session ss).map fun x => x.2.position).IsChain (· ≤ ·) := by
  rcases start_of_ofTokens hc with ⟨htokens, hposition⟩
  rcases ofTokens_eq_ok_iff.1 hc with ⟨hbehind, hinput⟩
  refine ⟨?_, ?_, ?_⟩
  · have hgives := Indexed.session_gives c ss
    rwa [htokens, hposition] at hgives
  · intro x hx
    rcases passes_of_mem_session hx with ⟨us, hus⟩
    constructor
    · rw [hus.tokens_eq, htokens]
    · rw [← hinput]
      exact hus.position_le_endIndex hbehind
  · rw [← hposition]
    exact session_isChain c ss

/-- After a missing operand the session goes on from the token at fault, and no further
than the first end token. -/
theorem session_inBounds_inner_end :
    (Indexed.session [.number "1", ⟨.plus, "+"⟩, .eof, .number "2", .eof]
        [.phrase .program, .phrase .primary, .move .advance,
          .move (.accept [.eof, .number])]).run.run 0 =
      some (.ok
        [(.node (.error (.illegalExpression .eof)), 2),
          (.node (.error (.illegalExpression .eof)), 2), (.reply (.token ⟨.plus, "+"⟩), 2),
          (.reply (.flag false), 2)], 2) := by
  have hc : ofTokens [.number "1", ⟨.plus, "+"⟩, .eof, .number "2", .eof] =
      .ok ⟨[], .number "1", [⟨.plus, "+"⟩, .eof, .number "2", .eof], rfl⟩ := rfl
  have hsafe := session_inBounds hc
    [.phrase .program, .phrase .primary, .move .advance, .move (.accept [.eof, .number])]
  rw [hsafe.1]
  decide +kernel

end Cursor

end Arith
