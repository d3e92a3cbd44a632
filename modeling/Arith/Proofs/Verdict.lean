import Arith.Proofs.Derivation

/-!
# The outcome of reading

What is wrong with a token sequence can be told from neighbouring tokens alone: a
leading operator, or the first operator that no number follows.  Reading reports
exactly that.

Main results:

- `FirstLacking`: the first token that stands where an operator needs a number.
- `Verdict`: what is to be reported of the tokens up to the first end token.
- `Verdict.unique`: there is one verdict at most.
- `Program.verdict_of_ofTokens`: reading a closed sequence ends with its verdict.
- `Program.ofTokens_outcome`: every outcome of reading, exactly when it is due.
-/

namespace Arith

/-! ## Tokens that stand where a number is needed -/

/-- A token is the first one of a sequence that stands right after an operator and
is no number. -/
def FirstLacking (ts : List Token) (t : Token) : Prop :=
  ∃ before o after, ts = before ++ o :: t :: after ∧ o.kind.isOperator = true ∧
    t.kind ≠ .number ∧ (before ++ [o]).IsChain Supplies

namespace FirstLacking

/-- A sequence with such a token is not in order. -/
theorem not_isChain {ts : List Token} {t : Token} (h : FirstLacking ts t) :
    ¬ ts.IsChain Supplies := by
  intro horderly
  rcases h with ⟨before, o, after, rfl, ho, ht, -⟩
  exact ht ((List.isChain_append_cons_cons.1 horderly).2.1 ho)

/-- An unfinished sequence lacks a number right after it, and nowhere before. -/
theorem of_unfinished {kinds : List Kind} {us after : List Token} {t : Token}
    (hus : Unfinished kinds us) (ht : t.kind ≠ .number) : FirstLacking (us ++ t :: after) t := by
  rcases hus with ⟨-, ⟨o, hlast, -, ho⟩, horderly⟩
  rcases List.getLast?_eq_some_iff.1 hlast with ⟨before, rfl⟩
  exact ⟨before, o, after, by simp, ho, ht, horderly⟩

/-- A sequence in order does not reach past a token that an operator before it makes
lacking. -/
theorem eq_of_extension {before us after after' : List Token} {o t u : Token}
    (ho : o.kind.isOperator = true) (ht : t.kind ≠ .number)
    (horderly : (before ++ o :: us).IsChain Supplies) (h : t :: after = us ++ u :: after') :
    t = u := by
  cases us with
  | nil => exact (List.cons.inj h).1
  | cons x us =>
    have htx : t = x := (List.cons.inj h).1
    rw [← htx] at horderly
    have hnumber := (List.isChain_append_cons_cons.1 horderly).2.1 ho
    contradiction

/-- There is one such token at most. -/
theorem unique {ts : List Token} {t u : Token} (ht : FirstLacking ts t)
    (hu : FirstLacking ts u) : t = u := by
  rcases ht with ⟨before, o, after, hts, ho, htKind, horderly⟩
  rcases hu with ⟨before', o', after', hts', ho', huKind, horderly'⟩
  have heq : (before ++ [o]) ++ t :: after = (before' ++ [o']) ++ u :: after' := by
    simpa using hts.symm.trans hts'
  -- One of the two parts in order reaches at least as far as the other.
  rcases List.append_eq_append_iff.1 heq with ⟨us, hlong, hrest⟩ | ⟨us, hlong, hrest⟩
  · rw [hlong, List.append_assoc] at horderly'
    exact eq_of_extension ho htKind horderly' hrest
  · rw [hlong, List.append_assoc] at horderly
    exact (eq_of_extension ho' huKind horderly hrest).symm

/-- Up to the first end token, the token is that one, after a trailing operator, or
an operator right after another one. -/
theorem trailing_or_adjacent {b : List Token} {e t : Token} (h : FirstLacking (b ++ [e]) t)
    (hb : ∀ u ∈ b, u.kind ≠ .eof) (he : e.kind = .eof) :
    (t.kind = .eof ∧ b.IsChain Supplies ∧ ∃ o ∈ b.getLast?, o.kind.isOperator = true) ∨
      (t.kind.isOperator = true ∧
        ∃ before o after, b = before ++ o :: t :: after ∧ o.kind.isOperator = true) := by
  rcases h with ⟨before, o, after, heq, ho, ht, horderly⟩
  rcases after.eq_nil_or_concat with rfl | ⟨middle, x, rfl⟩
  · left
    have hsnoc : b ++ [e] = (before ++ [o]) ++ [t] := by simpa using heq
    rcases List.append_inj' hsnoc rfl with ⟨hb', hlast⟩
    subst hb'
    rw [← (List.cons.inj hlast).1]
    exact ⟨he, horderly, o, by simp, ho⟩
  · right
    have hsnoc : b ++ [e] = (before ++ o :: t :: middle) ++ [x] := by simpa using heq
    have hb' : b = before ++ o :: t :: middle := (List.append_inj' hsnoc rfl).1
    have heof : t.kind ≠ .eof := by
      apply hb
      simp [hb']
    exact ⟨Kind.isOperator_of_ne heof ht, before, o, middle, hb', ho⟩

end FirstLacking

/-- A token that can be reached without passing an end token lies in the tokens up
to the first end token. -/
theorem exists_append_eq {us b after rest : List Token} {t e : Token}
    (h : us ++ t :: after = b ++ e :: rest) (hus : ∀ u ∈ us, u.kind ≠ .eof)
    (he : e.kind = .eof) : ∃ after', b ++ [e] = us ++ t :: after' := by
  rcases List.append_eq_append_iff.1 h with ⟨vs, rfl, hrest⟩ | ⟨vs, rfl, hrest⟩
  · cases vs with
    | nil =>
      rw [(List.cons.inj hrest).1]
      exact ⟨[], by simp⟩
    | cons x vs =>
      rw [(List.cons.inj hrest).1]
      exact ⟨vs ++ [e], by simp⟩
  · cases vs with
    | nil =>
      rw [(List.cons.inj hrest).1]
      exact ⟨[], by simp⟩
    | cons x vs =>
      rw [(List.cons.inj hrest).1] at he
      have hne : x.kind ≠ .eof := by
        apply hus
        simp
      contradiction

/-! ## Verdicts -/

/-- What is to be reported, if anything, of the tokens `b` before the first end token
`e` of a sequence. -/
inductive Verdict (b : List Token) (e : Token) : Option Diagnostic → Prop
  | leading {t : Token} (ht : t ∈ b.head?) (hoperator : t.kind.isOperator = true) :
      Verdict b e (some ⟨.unknownOperand t.value t.kind, some t⟩)
  | lacking {t : Token} (hhead : ∀ u ∈ b.head?, u.kind.isOperator = false)
      (hfirst : FirstLacking (b ++ [e]) t) :
      Verdict b e (some ⟨.illegalExpression t.value t.kind, some t⟩)
  | nothing (hhead : ∀ u ∈ b.head?, u.kind.isOperator = false)
      (horderly : (b ++ [e]).IsChain Supplies) : Verdict b e none

/-- There is one verdict at most. -/
theorem Verdict.unique {b : List Token} {e : Token} {r r' : Option Diagnostic}
    (h : Verdict b e r) (h' : Verdict b e r') : r = r' := by
  have hexclusive : ∀ {t}, t ∈ b.head? → t.kind.isOperator = true →
      ¬ ∀ u ∈ b.head?, u.kind.isOperator = false := by
    intro t ht hoperator hhead
    rw [hhead t ht] at hoperator
    contradiction
  cases h with
  | leading ht hoperator =>
    cases h' with
    | leading hu _ => rw [Option.mem_unique ht hu]
    | lacking hhead _ => exact absurd hhead (hexclusive ht hoperator)
    | nothing hhead _ => exact absurd hhead (hexclusive ht hoperator)
  | lacking hhead hfirst =>
    cases h' with
    | leading hu hoperator => exact absurd hhead (hexclusive hu hoperator)
    | lacking _ hfirst' => rw [hfirst.unique hfirst']
    | nothing _ horderly => exact absurd horderly hfirst.not_isChain
  | nothing hhead horderly =>
    cases h' with
    | leading hu hoperator => exact absurd hhead (hexclusive hu hoperator)
    | lacking _ hfirst => exact absurd horderly hfirst.not_isChain
    | nothing _ _ => rfl

/-- A verdict is the only one. -/
theorem Verdict.eq_iff {b : List Token} {e : Token} {r r' : Option Diagnostic}
    (h : Verdict b e r) : r = r' ↔ Verdict b e r' := by
  constructor
  · intro heq
    rwa [← heq]
  · intro h'
    exact h.unique h'

namespace Program

/-- What a result reports, if anything. -/
def fault? : Except Diagnostic Program → Option Diagnostic
  | .error d => some d
  | .ok _ => none

/-- A result reports an error exactly when it is one. -/
theorem fault?_eq_some_iff {r : Except Diagnostic Program} {d : Diagnostic} :
    fault? r = some d ↔ r = .error d := by
  cases r <;> simp [fault?]

/-- A result reports nothing exactly when it is a program. -/
theorem fault?_eq_none_iff {r : Except Diagnostic Program} :
    fault? r = none ↔ ∃ p, r = .ok p := by
  cases r <;> simp [fault?]

/-- Reading a closed sequence ends with its verdict. -/
theorem verdict_of_ofTokens {ts b rest : List Token} {e : Token} (hclosed : closed ts = true)
    (hsplit : ts = b ++ e :: rest) (hb : ∀ t ∈ b, t.kind ≠ .eof) (he : e.kind = .eof) :
    Verdict b e (fault? (ofTokens ts)) := by
  have hnumber : ∀ us : List Token, (∀ t ∈ us.head?, t.kind = .number) →
      ∀ t ∈ us.head?, t.kind.isOperator = false := by
    intro us hus t ht
    rw [hus t ht]
    rfl
  rcases exists_ofTokens_eq hclosed with ⟨c, hts, hprogram⟩
  subst hts
  rw [hprogram]
  rcases hrun : Production.statements [] c with ⟨g | ss, d⟩
  · rcases Production.statements_error hrun with ⟨hoperator, rfl, -⟩ | ⟨rfl, hne, us, hpasses, hus⟩
    · refine .leading ?_ hoperator
      cases b with
      | nil =>
        rw [(List.cons.inj hsplit).1, he] at hoperator
        cases hoperator
      | cons t b =>
        rw [(List.cons.inj hsplit).1]
        rfl
    · have hinput : us ++ d.current :: d.ahead = b ++ e :: rest :=
        hpasses.input_eq.symm.trans hsplit
      rcases exists_append_eq hinput hpasses.kind_ne_eof he with ⟨after, hafter⟩
      have hfirst : FirstLacking (b ++ [e]) d.current := by
        rw [hafter]
        exact .of_unfinished hus hne
      refine .lacking ?_ hfirst
      -- What was passed is not empty, so it starts as the tokens up to the end do.
      have hhead : (b ++ [e]).head? = us.head? := by
        rw [hafter]
        rcases hus.last with ⟨o, ho, -⟩
        cases us with
        | nil => simp at ho
        | cons u us => rfl
      cases b with
      | nil => simp
      | cons t b =>
        intro u hu
        have hu' : u ∈ us.head? := by
          rw [← hhead]
          exact hu
        exact hnumber us hus.head u hu'
  · rcases Production.statements_ok hrun with ⟨us, ss', hpasses, hend, hderives, -⟩
    have hfinished := hderives.finished
    rw [hpasses.eq_body hend, hsplit, body_append hb he] at hfinished
    have horderly : (b ++ [e]).IsChain Supplies :=
      isChain_append_of_last hfinished.last hfinished.orderly (.singleton e)
    exact .nothing (hnumber b hfinished.head) horderly

/-- Every outcome of reading, exactly when it is due.  A sequence that does not end
with an end token is reported as such, whatever it holds.  Of any other sequence the
tokens up to the first end token decide: a leading operator is reported; else the
first token that stands right after an operator and is no number, which is the end
token after a trailing operator or the second of two neighbouring operators; and
else there is a program. -/
theorem ofTokens_outcome (ts : List Token) :
    ((∀ last ∈ ts.getLast?, last.kind ≠ .eof) → ofTokens ts = .error ⟨.missingEof, none⟩) ∧
    ∀ b e rest, ts = b ++ e :: rest → (∀ t ∈ b, t.kind ≠ .eof) → e.kind = .eof →
      (∃ last ∈ ts.getLast?, last.kind = .eof) →
        (∀ d, ofTokens ts = .error d ↔ Verdict b e (some d)) ∧
        ((∃ p, ofTokens ts = .ok p) ↔ Verdict b e none) ∧
        ∀ text kind t, ofTokens ts = .error ⟨.illegalExpression text kind, some t⟩ →
          (t.kind = .eof ∧ b.IsChain Supplies ∧ ∃ o ∈ b.getLast?, o.kind.isOperator = true) ∨
            (t.kind.isOperator = true ∧
              ∃ before o after, b = before ++ o :: t :: after ∧ o.kind.isOperator = true) := by
  constructor
  · intro hlast
    apply ofTokens_of_not_closed
    rw [← Bool.not_eq_true, closed_iff]
    intro hclosed
    rcases hclosed with ⟨e, he, hkind⟩
    exact hlast e he hkind
  · intro b e rest hsplit hb he hlast
    have hverdict := verdict_of_ofTokens (closed_iff.2 hlast) hsplit hb he
    have herror : ∀ d, ofTokens ts = .error d ↔ Verdict b e (some d) := by
      intro d
      rw [← fault?_eq_some_iff]
      exact hverdict.eq_iff
    refine ⟨herror, ?_, ?_⟩
    · rw [← fault?_eq_none_iff]
      exact hverdict.eq_iff
    · intro text kind t h
      cases (herror _).1 h with
      | lacking _ hfirst => exact hfirst.trailing_or_adjacent hb he

/-- The second of two neighbouring operators is reported, and nothing that stands
after the first end token. -/
theorem ofTokens_neighbouring_operators :
    ofTokens [.number "1", ⟨.plus, "+"⟩, ⟨.star, "*"⟩, .number "2", .eof, ⟨.minus, "-"⟩, .eof] =
      .error ⟨.illegalExpression "*" .star, some ⟨.star, "*"⟩⟩ := by
  have houtcome := (ofTokens_outcome _).2
    [.number "1", ⟨.plus, "+"⟩, ⟨.star, "*"⟩, .number "2"] .eof [⟨.minus, "-"⟩, .eof]
    rfl (by simp) rfl ⟨.eof, by simp, rfl⟩
  have hhead : ∀ u ∈ ([.number "1", ⟨.plus, "+"⟩, ⟨.star, "*"⟩, .number "2"] :
      List Token).head?, u.kind.isOperator = false := by
    simp [Kind.isOperator, Kind.glyph?]
  apply (houtcome.1 _).2
  apply Verdict.lacking (t := ⟨.star, "*"⟩) hhead
  refine ⟨[.number "1"], ⟨.plus, "+"⟩, [.number "2", .eof], rfl, rfl, by simp, ?_⟩
  exact isChain_append_of_last (by simp) (.singleton _) (.singleton _)

end Program

end Arith
