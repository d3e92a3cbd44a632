import Arith.Proofs.Locality

/-!
# Programs in a row

Statements have no terminator, but the last one of a program ends where a number follows it.  So
a program is read up to there as if it were closed, and the tokens after it are read as if they
stood alone: nothing is carried over but the statements already read.

Main results:

- `Production.statements_append`: statements read earlier make no difference to later ones.
- `Production.result_statements_of_input_eq`: what is read depends on the tokens ahead alone.
- `Program.ofTokens_append`: tokens after a program are read by themselves.
- `Program.ofTokens_boundary`: a sequence is read part by part at the start of a statement.
-/

namespace Arith

/-- What a passage decides holds wherever the same tokens stand ahead. -/
theorem Cursor.Decides.exists_of_input_eq {c c' d : Cursor} {Q : Cursor → Cursor → Prop}
    (h : c.Decides d Q) (hinput : c'.input = c.input) : ∃ d', Q c' d' := by
  rcases h with ⟨us, hus, hQ⟩
  have hsplit : c'.input = us ++ d.current :: d.ahead := hinput.trans hus.input_eq
  rcases exists_passes hsplit hus.kind_ne_eof with ⟨d', hpasses, hd'⟩
  exact ⟨d', hQ c' d' hpasses (List.cons.inj hd').1⟩

namespace Production

/-- Statements read earlier stand before those still to be read, and make no difference to
them. -/
theorem statements_append (read older : List Statement) (c : Cursor) :
    statements (read ++ older) c = (statements read c).map (older.reverse ++ ·) := by
  fun_induction statements read c with
  | case1 read c hend =>
    rw [statements_of_atEnd hend]
    simp [Outcome.map, Except.map]
  | case2 read c hend g stop hrun =>
    rw [statements_of_run_eq_error (by simpa using hend) hrun]
    rfl
  | case3 read c hend s next hrun ih =>
    rw [statements_of_run_eq_ok (by simpa using hend) hrun]
    exact ih

/-- The statements that are read, or the report, depend on the tokens ahead alone. -/
theorem result_statements_of_input_eq {c c' : Cursor} (hinput : c'.input = c.input)
    (read : List Statement) : (statements read c').result = (statements read c).result := by
  rcases (statements_isLocal read c).exists_of_input_eq hinput with ⟨d', hrun⟩
  rw [hrun]

end Production

namespace Program

/-- Closed tokens that do not start with an operator are read by themselves after a program, and
its statements stand before those they give. -/
theorem ofTokens_append {us vs : List Token} {ss : List Statement}
    (hderives : Grammar.Statements us ss) (hclosed : closed vs = true)
    (hstart : ∀ t ∈ vs.head?, t.kind.isOperator = false) :
    ofTokens (us ++ vs) = (ofTokens vs).map fun q => ⟨ss ++ q.statements⟩ := by
  cases vs with
  | nil => simp at hclosed
  | cons t rest =>
    have hwhole : closed (us ++ t :: rest) = true := by
      rw [closed_iff] at hclosed ⊢
      rcases hclosed with ⟨e, he, hkind⟩
      refine ⟨e, ?_, hkind⟩
      rw [List.getLast?_append, he]
      rfl
    rcases exists_ofTokens_eq hwhole with ⟨c, hinput, hc⟩
    rcases exists_ofTokens_eq hclosed with ⟨c', hinput', hc'⟩
    rcases Cursor.exists_passes hinput hderives.finished.kind_ne with ⟨d, hpasses, hd⟩
    have hstop : d.current.kind.isOperator = false := by
      rw [(List.cons.inj hd).1]
      exact hstart t rfl
    have hrest := Production.result_statements_of_input_eq (hd.trans hinput'.symm) []
    have hread : Production.statements [] c =
        (Production.statements [] d).map (ss ++ ·) := by
      rw [Production.statements_of_passes hderives hpasses hstop, List.append_nil]
      simpa using Production.statements_append [] ss.reverse d
    rw [hc, hc', hread, Outcome.map_result, Outcome.map_result, Outcome.map_result, hrest]
    cases (Production.statements [] c').result <;> rfl

/-- Reading is compositional at the start of a statement.  Let some tokens without an end token
be read as a program once they are closed, and let no token or a number stand first among some
others.  What is reported of these others, once closed, is reported of all of them in a row; and
if they are read as a program, then all of them are read as the statements of the first program
and those of the second. -/
theorem ofTokens_boundary {a b : List Token} {e : Token} {p : Program}
    (ha : ∀ t ∈ a, t.kind ≠ .eof) (he : e.kind = .eof) (hp : ofTokens (a ++ [e]) = .ok p)
    (hb : ∀ t ∈ b.head?, t.kind = .number) :
    (∀ g, ofTokens (b ++ [e]) = .error g → ofTokens (a ++ b ++ [e]) = .error g) ∧
    ∀ q, ofTokens (b ++ [e]) = .ok q →
      ofTokens (a ++ b ++ [e]) = .ok ⟨p.statements ++ q.statements⟩ := by
  have hderives : Grammar.Statements a p.statements := by
    have hbody := (derives_of_ofTokens hp).2
    rwa [body_append ha he] at hbody
  have hstart : ∀ t ∈ (b ++ [e]).head?, t.kind.isOperator = false := by
    intro t ht
    cases b with
    | nil =>
      have het : e = t := by simpa using ht
      rw [← het, he]
      rfl
    | cons u b =>
      rw [hb t ht]
      rfl
  have hread := ofTokens_append hderives (closed_concat he b) hstart
  rw [← List.append_assoc] at hread
  constructor
  · intro g hg
    rw [hread, hg]
    rfl
  · intro q hq
    rw [hread, hq]
    rfl

/-- Two statements go before a third one, and before one that lacks an operand: the report is
then that of the latter. -/
theorem ofTokens_boundary_third :
    ofTokens ([.number "1", ⟨.star, "*"⟩, .number "2", .number "3"] ++ [.number "4"] ++ [.eof]) =
        .ok ⟨[⟨.binary (.literal "1") ⟨.star, "*"⟩ (.literal "2")⟩, ⟨.literal "3"⟩] ++
          [⟨.literal "4"⟩]⟩ ∧
      ofTokens ([.number "1", ⟨.star, "*"⟩, .number "2", .number "3"] ++
          [.number "4", ⟨.minus, "-"⟩, ⟨.slash, "/"⟩] ++ [.eof]) =
        .error ⟨.illegalExpression "/" .slash, some ⟨.slash, "/"⟩⟩ := by
  have hp : ofTokens ([.number "1", ⟨.star, "*"⟩, .number "2", .number "3"] ++ [.eof]) =
      .ok ⟨[⟨.binary (.literal "1") ⟨.star, "*"⟩ (.literal "2")⟩, ⟨.literal "3"⟩]⟩ := by
    decide +kernel
  have hthird : ofTokens ([.number "4"] ++ [.eof]) = .ok ⟨[⟨.literal "4"⟩]⟩ := by
    decide +kernel
  have hlacking : ofTokens ([.number "4", ⟨.minus, "-"⟩, ⟨.slash, "/"⟩] ++ [.eof]) =
      .error ⟨.illegalExpression "/" .slash, some ⟨.slash, "/"⟩⟩ := by
    decide +kernel
  constructor
  · exact (ofTokens_boundary (by simp) rfl hp (by simp)).2 _ hthird
  · exact (ofTokens_boundary (by simp) rfl hp (by simp)).1 _ hlacking

end Program

end Arith
