import Arith.Proofs.RoundTrip
import Mathlib.Data.List.SplitBy

/-!
# Where statements end

Statements have nothing between them, yet where one ends and the next begins can be seen from
the kinds of tokens alone: numbers and operators take turns in each statement, so two numbers in
a row are the end of one statement and the start of another.

Main results:

- `Alternating`: numbers and operators take turns, with a number at both ends.
- `Alternating.append`: an operator joins two such sequences.
- `Alternating.numberCount_eq`: they have one number more than they have operators.
- `Expr.WellFormed.alternating`: the tokens of a statement take turns.
- `cutBetweenNumbers_flatten`: such sequences in a row are found again by the cuts.
- `Program.ofTokens_pieces`: a program has the statements that the cuts give.
-/

namespace Arith

/-- Numbers and operators take turns, with a number at both ends. -/
inductive Alternating : List Token → Prop
  | number {t : Token} (ht : t.kind = .number) : Alternating [t]
  | cons {t o : Token} {ts : List Token} (ht : t.kind = .number)
      (ho : o.kind.isOperator = true) (hts : Alternating ts) : Alternating (t :: o :: ts)

/-- Whether a sequence stays in one piece between two of its tokens: it does, unless both are
numbers. -/
def staysTogether (t u : Token) : Bool :=
  !(t.kind = .number && u.kind = .number)

/-- The pieces of a sequence that is cut before every number that comes right after a
number. -/
def cutBetweenNumbers (ts : List Token) : List (List Token) :=
  ts.splitBy staysTogether

/-- The number of number tokens of a sequence. -/
def numberCount (ts : List Token) : Nat :=
  ts.countP fun t => t.kind = .number

/-- The number of operator tokens of a sequence. -/
def operatorCount (ts : List Token) : Nat :=
  ts.countP fun t => t.kind.isOperator

namespace Alternating

variable {ts us : List Token} {o : Token}

/-- An operator joins two sequences in which numbers and operators take turns. -/
theorem append (hts : Alternating ts) (ho : o.kind.isOperator = true) (hus : Alternating us) :
    Alternating (ts ++ o :: us) := by
  induction hts with
  | number ht => exact .cons ht ho hus
  | cons ht ho' _ ih => exact .cons ht ho' ih

theorem ne_nil (h : Alternating ts) : ts ≠ [] := by
  cases h <;> simp

/-- The first token is a number. -/
theorem kind_head (h : Alternating ts) : (ts.head h.ne_nil).kind = .number := by
  cases h with
  | number ht => exact ht
  | cons ht => exact ht

/-- The last token is a number. -/
theorem kind_getLast (h : Alternating ts) : (ts.getLast h.ne_nil).kind = .number := by
  induction h with
  | number ht => exact ht
  | cons _ _ hts ih =>
    rw [List.getLast_cons (by simp), List.getLast_cons hts.ne_nil]
    exact ih

/-- No number comes right after a number. -/
theorem isChain (h : Alternating ts) : ts.IsChain fun t u => staysTogether t u = true := by
  induction h with
  | number => exact .singleton _
  | @cons t o ts _ ho hts ih =>
    have hne : o.kind ≠ .number := (Kind.ne_of_isOperator ho).2
    have hbefore : staysTogether t o = true := by simp [staysTogether, hne]
    refine List.isChain_cons_cons.2 ⟨hbefore, List.isChain_cons.2 ⟨?_, ih⟩⟩
    intro u _
    simp [staysTogether, hne]

/-- There is one number more than there are operators. -/
theorem numberCount_eq (h : Alternating ts) : numberCount ts = operatorCount ts + 1 := by
  have hnumber : Kind.isOperator .number = false := rfl
  induction h with
  | number ht => simp [numberCount, operatorCount, ht, hnumber]
  | cons ht ho _ ih =>
    have hne := (Kind.ne_of_isOperator ho).2
    simpa [numberCount, operatorCount, ht, ho, hne, hnumber] using ih

end Alternating

/-! ## Pieces in a row -/

/-- Sequences in which numbers and operators take turns are found again when all of them, in a
row, are cut before every number that comes right after a number. -/
theorem cutBetweenNumbers_flatten {pieces : List (List Token)}
    (h : ∀ ts ∈ pieces, Alternating ts) : cutBetweenNumbers pieces.flatten = pieces := by
  apply List.splitBy_flatten
  · intro hnil
    exact (h [] hnil).ne_nil rfl
  · intro ts hts
    exact (h ts hts).isChain
  · apply List.Pairwise.isChain
    apply List.pairwise_of_forall_mem_list
    intro ts hts us hus
    refine ⟨(h ts hts).ne_nil, (h us hus).ne_nil, ?_⟩
    simp [staysTogether, (h ts hts).kind_getLast, (h us hus).kind_head]

/-- There is one number more than there are operators for each of such sequences in a row. -/
theorem length_add_operatorCount_flatten {pieces : List (List Token)}
    (h : ∀ ts ∈ pieces, Alternating ts) :
    pieces.length + operatorCount pieces.flatten = numberCount pieces.flatten := by
  induction pieces with
  | nil => rfl
  | cons ts pieces ih =>
    rcases List.forall_mem_cons.1 h with ⟨hts, hpieces⟩
    have hfirst := hts.numberCount_eq
    have hrest := ih hpieces
    simp only [List.length_cons, List.flatten_cons, numberCount, operatorCount,
      List.countP_append] at hfirst hrest ⊢
    omega

/-! ## Statements are pieces -/

/-- Numbers and operators take turns in the tokens of a well-formed tree. -/
theorem Expr.WellFormed.alternating {e : Expr} (h : e.WellFormed) : Alternating e.tokens := by
  induction e with
  | literal value => exact .number rfl
  | binary left operator right ihl ihr =>
    rcases h with ⟨hleft, hright, level, hlevel, -, -⟩
    have hoperator : operator.kind.isOperator = true := by
      rw [← Level.of?_isSome, hlevel]
      rfl
    exact (ihl hleft).append hoperator (ihr hright)

namespace Program

/-- The tokens of each statement of a program. -/
def pieces (p : Program) : List (List Token) :=
  p.statements.map fun s => s.expr.inorder

/-- The tokens of a program are those of its statements in a row. -/
theorem flatten_pieces (p : Program) : p.pieces.flatten = p.inorder :=
  List.flatMap_def.symm

/-- Numbers and operators take turns in each statement of a program that was read. -/
theorem alternating_of_mem_pieces {ts : List Token} {p : Program} (h : ofTokens ts = .ok p) :
    ∀ piece ∈ p.pieces, Alternating piece := by
  intro piece hpiece
  rcases List.mem_map.1 hpiece with ⟨s, hs, rfl⟩
  rw [Expr.inorder_eq_tokens]
  exact (wellFormed_of_ofTokens h s hs).alternating

/-- The statements of a program that was read have the pieces as their tokens into which the
tokens before the first end token fall when they are cut before every number that comes right
after a number.  In each of them numbers and operators take turns, so there are as many
statements as there are more numbers than operators. -/
theorem ofTokens_pieces {ts : List Token} {p : Program} (h : ofTokens ts = .ok p) :
    p.pieces = cutBetweenNumbers (body ts) ∧
      (∀ piece ∈ cutBetweenNumbers (body ts), Alternating piece) ∧
      p.length + operatorCount (body ts) = numberCount (body ts) := by
  have halternating := alternating_of_mem_pieces h
  have hbody : p.pieces.flatten = body ts := p.flatten_pieces.trans (inorder_eq_body h)
  have hcuts : cutBetweenNumbers (body ts) = p.pieces := by
    rw [← hbody]
    exact cutBetweenNumbers_flatten halternating
  have hcount := length_add_operatorCount_flatten halternating
  rw [hbody] at hcount
  refine ⟨hcuts.symm, ?_, ?_⟩
  · rw [hcuts]
    exact halternating
  · simpa [pieces, length] using hcount

/-- Three statements of five numbers and two operators; what stands after the first end token
does not count. -/
theorem ofTokens_pieces_three :
    cutBetweenNumbers [.number "1", ⟨.plus, "+"⟩, .number "2", .number "3", .number "4",
        ⟨.star, "*"⟩, .number "5"] =
      [[.number "1", ⟨.plus, "+"⟩, .number "2"], [.number "3"],
        [.number "4", ⟨.star, "*"⟩, .number "5"]] ∧
    3 + operatorCount [.number "1", ⟨.plus, "+"⟩, .number "2", .number "3", .number "4",
        ⟨.star, "*"⟩, .number "5"] =
      numberCount [.number "1", ⟨.plus, "+"⟩, .number "2", .number "3", .number "4",
        ⟨.star, "*"⟩, .number "5"] := by
  have hread : ofTokens [.number "1", ⟨.plus, "+"⟩, .number "2", .number "3", .number "4",
      ⟨.star, "*"⟩, .number "5", .eof, .number "6", .eof] =
      .ok ⟨[⟨.binary (.literal "1") ⟨.plus, "+"⟩ (.literal "2")⟩, ⟨.literal "3"⟩,
        ⟨.binary (.literal "4") ⟨.star, "*"⟩ (.literal "5")⟩]⟩ := by
    decide +kernel
  rcases ofTokens_pieces hread with ⟨hcuts, -, hcount⟩
  simp only [pieces, List.map, Expr.inorder_eq_tokens] at hcuts
  exact ⟨hcuts.symm, hcount⟩

end Program

end Arith
