import Arith.Expr.Depth
import Arith.Proofs.Derivation
import Mathlib

/-!
# Depth of statements

The tree of a statement leans to the left, so its depth can be told from the lengths of its terms.
A term lies one node deeper for its own additive operator and for each one after it; the first
term has no operator of its own, and lies as deep as the second.

Main results:

- `Joined`: operands joined by operators of a level, with the tokens and the tree that they make.
- `Joined.multiplication`, `Joined.addition`: the tree is derived from the tokens.
- `Joined.height_tree`: how deep the operands lie in the tree.
- `Terms.addition_tree`, `Terms.depth_tree`: statements as terms joined by additive operators.
- `Program.ofTokens_depth`: the depth of a statement, from how long its terms are.
-/

namespace Arith

open Grammar

/-- An operator token of a level, with any text. -/
abbrev OperatorOf (level : Level) : Type :=
  { o : Token // o.kind ∈ level.operators }

/-- Operands joined by operators of one level. -/
structure Joined (level : Level) (α : Type) where
  /-- The first operand. -/
  first : α
  /-- The operators, each with its right operand. -/
  more : List (OperatorOf level × α)

namespace Joined

variable {level : Level} {α : Type}

/-- The operands from left to right. -/
def operands (j : Joined level α) : List α :=
  j.first :: j.more.map Prod.snd

/-- The tokens, if each operand has the given tokens. -/
def tokens (write : α → List Token) (j : Joined level α) : List Token :=
  write j.first ++ j.more.flatMap fun x => x.1.val :: write x.2

/-- Extends a tree to the right by operators with their right operands. -/
def extend (read : α → Expr) (left : Expr) (more : List (OperatorOf level × α)) : Expr :=
  more.foldl (fun left x => .binary left x.1.val (read x.2)) left

/-- The tree that leans to the left, if each operand has the given tree. -/
def tree (read : α → Expr) (j : Joined level α) : Expr :=
  extend read (read j.first) j.more

/-! ## The tree is derived -/

variable {write : α → List Token} {read : α → Expr}

/-- Numbers joined by multiplicative operators are derived as a multiplication. -/
theorem multiplication {ts : List Token} {left : Expr} (hleft : Multiplication ts left)
    (more : List (OperatorOf .multiplicative × String)) :
    Multiplication (ts ++ more.flatMap fun x => [x.1.val, .number x.2])
      (extend .literal left more) := by
  induction more generalizing ts left with
  | nil => simpa [extend] using hleft
  | cons x more ih =>
    have hoperator := Level.mem_multiplicative_iff.1 x.1.property
    have hnext := ih (hleft.extend hoperator (t := .number x.2) rfl)
    simpa [extend] using hnext

/-- Multiplications joined by additive operators are derived as an addition. -/
theorem addition {ts : List Token} {left : Expr} (hleft : Addition ts left)
    (hoperands : ∀ a, Multiplication (write a) (read a)) (more : List (OperatorOf .additive × α)) :
    Addition (ts ++ more.flatMap fun x => x.1.val :: write x.2) (extend read left more) := by
  induction more generalizing ts left with
  | nil => simpa [extend] using hleft
  | cons x more ih =>
    have hoperator := Level.mem_additive_iff.1 x.1.property
    have hnext := ih (hleft.extend hoperator (hoperands x.2))
    simpa [extend] using hnext

/-! ## How deep the operands lie -/

/-- A tree that is extended to the right fits into a height exactly when it does with all the
operators above it, and each right operand does with its own operator and those after it. -/
theorem height_extend_le_iff (left : Expr) (more : List (OperatorOf level × α)) (bound : Nat) :
    (extend read left more).height ≤ bound ↔
      more.length + left.height ≤ bound ∧
        ∀ i < more.length,
          more.length - i + ((more.map fun x => (read x.2).height).getD i 0) ≤ bound := by
  induction more generalizing left with
  | nil => simp [extend]
  | cons x more ih =>
    have hnext := ih (.binary left x.1.val (read x.2))
    have hfirst : more.length + (1 + max left.height (read x.2).height) ≤ bound ↔
        more.length + 1 + left.height ≤ bound ∧ more.length + 1 + (read x.2).height ≤ bound := by
      omega
    rw [extend, List.foldl_cons, ← extend, hnext, Expr.height, hfirst]
    simp only [List.length_cons, List.map_cons, Nat.forall_lt_succ_left, List.getD_cons_zero,
      List.getD_cons_succ, Nat.add_sub_add_right, Nat.sub_zero, and_assoc]

/-- The first operand lies below all operators, and each of the others below its own and those
after it. -/
theorem height_tree (j : Joined level α) :
    (j.tree read).height =
      max (j.more.length + (read j.first).height) ((Finset.Icc 1 j.more.length).sup fun i =>
        j.more.length - i + 1 + (j.operands.map fun a => (read a).height).getD i 0) := by
  apply eq_of_forall_ge_iff
  intro bound
  rw [tree, height_extend_le_iff, max_le_iff, Finset.sup_le_iff]
  have hoperand : ∀ i, (j.operands.map fun a => (read a).height).getD (i + 1) 0 =
      (j.more.map fun x => (read x.2).height).getD i 0 := by
    intro i
    simp [operands, Function.comp_def]
  -- The operator before an operand has the operand's index less one.
  refine and_congr_right fun _ => ⟨?_, ?_⟩
  · intro h i hi
    rcases Finset.mem_Icc.1 hi with ⟨hpos, hle⟩
    obtain ⟨k, rfl⟩ : ∃ k, i = k + 1 := ⟨i - 1, by omega⟩
    have hk := h k (by omega)
    rw [hoperand]
    omega
  · intro h i hi
    have hnext := h (i + 1) (Finset.mem_Icc.2 ⟨by omega, hi⟩)
    rw [hoperand] at hnext
    omega

/-- Right operands that are literals lie no deeper than what is to the left of them. -/
theorem height_extend_literal (left : Expr) (more : List (OperatorOf level × String)) :
    (extend .literal left more).height = more.length + left.height := by
  induction more generalizing left with
  | nil => simp [extend]
  | cons x more ih =>
    have hnext := ih (.binary left x.1.val (.literal x.2))
    have hpos := left.height_pos
    rw [extend, List.foldl_cons, ← extend, hnext, List.length_cons]
    simp only [Expr.height]
    omega

/-! ## Numbers joined by operators of one level -/

/-- The tokens of numbers, given by their texts, with the operators between them. -/
def numberTokens (j : Joined level String) : List Token :=
  j.tokens fun value => [.number value]

/-- The tree of numbers joined by operators. -/
def numberTree (j : Joined level String) : Expr :=
  j.tree .literal

/-- The tree of a term is derived from its tokens. -/
theorem multiplication_numberTree (t : Joined .multiplicative String) :
    Multiplication t.numberTokens t.numberTree :=
  multiplication (.number (t := .number t.first) rfl) t.more

/-- Numbers joined by operators of either level are derived as an addition. -/
theorem addition_numberTree (j : Joined level String) :
    Addition j.numberTokens j.numberTree := by
  cases level with
  | additive =>
    have hnumber : ∀ value, Multiplication [.number value] (.literal value) := by
      intro value
      exact .number (t := .number value) rfl
    exact addition (.term (hnumber j.first)) hnumber j.more
  | multiplicative => exact .term j.multiplication_numberTree

/-- A chain of numbers is as deep as it is long. -/
theorem height_numberTree (j : Joined level String) :
    j.numberTree.height = j.operands.length := by
  rw [numberTree, tree, height_extend_literal]
  simp [Expr.height, operands]

end Joined

/-! ## Statements as terms joined by additive operators -/

/-- A term: numbers, given by their texts, joined by multiplicative operators. -/
abbrev Term : Type :=
  Joined .multiplicative String

/-- Terms joined by additive operators. -/
abbrev Terms : Type :=
  Joined .additive Term

namespace Terms

/-- The tokens of terms, with the operators between them. -/
def tokens (ts : Terms) : List Token :=
  Joined.tokens Joined.numberTokens ts

/-- The tree of terms joined by operators. -/
def tree (ts : Terms) : Expr :=
  Joined.tree Joined.numberTree ts

/-- The number of numbers in the term with a given index. -/
def size (ts : Terms) (i : Nat) : Nat :=
  (ts.operands.map fun t => t.operands.length).getD i 0

/-- The tree of terms is derived from their tokens. -/
theorem addition_tree (ts : Terms) : Addition ts.tokens ts.tree :=
  Joined.addition (.term ts.first.multiplication_numberTree) Joined.multiplication_numberTree
    ts.more

/-- The depth of terms joined by operators. -/
theorem depth_tree (ts : Terms) :
    ts.tree.depth =
      max (ts.more.length + ts.size 0)
        ((Finset.Icc 1 ts.more.length).sup fun i => ts.more.length - i + 1 + ts.size i) := by
  rw [Expr.depth_eq_height, tree, Joined.height_tree]
  simp only [Joined.height_numberTree]
  rfl

end Terms

namespace Program

/-- The tokens of a derived addition, closed by any end token, are read as one statement. -/
theorem ofTokens_of_addition {us : List Token} {x : Expr} {e : Token} (h : Addition us x)
    (he : e.kind = .eof) : ofTokens (us ++ [e]) = .ok ⟨[⟨x⟩]⟩ := by
  apply ofTokens_of_derives (closed_concat he us)
  rw [body_append h.finished.1.kind_ne he]
  simpa using Statements.cons h .nil

/-- Terms joined by additive operators, each of numbers joined by multiplicative operators, are
read as one statement.  With `n` additive operators and `kᵢ` numbers in the term with index `i`,
its depth is the largest of `n + k₀` and of `n - i + 1 + kᵢ` for the other terms.  In particular
numbers joined by `m` operators of one level have depth `m + 1`. -/
theorem ofTokens_depth {e : Token} (he : e.kind = .eof) :
    (∀ ts : Terms, ∃ x : Expr, ofTokens (ts.tokens ++ [e]) = .ok ⟨[⟨x⟩]⟩ ∧
      x.depth = max (ts.more.length + ts.size 0)
        ((Finset.Icc 1 ts.more.length).sup fun i => ts.more.length - i + 1 + ts.size i)) ∧
    ∀ (level : Level) (j : Joined level String), ∃ x : Expr,
      ofTokens (j.numberTokens ++ [e]) = .ok ⟨[⟨x⟩]⟩ ∧ x.depth = j.more.length + 1 := by
  constructor
  · intro ts
    exact ⟨ts.tree, ofTokens_of_addition ts.addition_tree he, ts.depth_tree⟩
  · intro level j
    refine ⟨j.numberTree, ofTokens_of_addition j.addition_numberTree he, ?_⟩
    rw [Expr.depth_eq_height, Joined.height_numberTree]
    simp [Joined.operands]

/-- A long term in the middle decides the depth. -/
theorem ofTokens_depth_middle :
    ∃ x : Expr,
      ofTokens [.number "1", ⟨.plus, "+"⟩, .number "2", ⟨.star, "*"⟩, .number "3", ⟨.slash, "/"⟩,
        .number "4", ⟨.minus, "-"⟩, .number "5", .eof] = .ok ⟨[⟨x⟩]⟩ ∧ x.depth = 5 := by
  have hterms := (ofTokens_depth (e := .eof) rfl).1
    ⟨⟨"1", []⟩,
      [(⟨⟨.plus, "+"⟩, by decide⟩,
          ⟨"2", [(⟨⟨.star, "*"⟩, by decide⟩, "3"), (⟨⟨.slash, "/"⟩, by decide⟩, "4")]⟩),
        (⟨⟨.minus, "-"⟩, by decide⟩, ⟨"5", []⟩)]⟩
  rcases hterms with ⟨x, hread, hdepth⟩
  exact ⟨x, hread, hdepth.trans (by decide)⟩

end Program

end Arith
