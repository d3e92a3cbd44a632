import Arith.Expr.Depth
import Arith.Expr.Layout
import Mathlib.Algebra.Order.Ring.Nat

/-!
# Traversals end, with what recursion gives

The tokens and the depth of an expression are found by loops that work off a stack.  Nothing in
the shape of such a loop keeps it from going on forever, so it is given here as a function that may
have no result: it gets a limited number of rounds, and has no result if the stack is not empty
after them.  How many rounds a stack takes is the same number by which the definitions of the two
functions are seen to be total, so the loops end after exactly that many, and with the same result.

Main results:

- `StackLoop`, `StackLoop.run`: loops over a stack, in a limited number of rounds.
- `StackLoop.Account.run_eq`: when a loop ends, and with what, from what one round does.
- `Layout.loop`, `Expr.depthLoop`: the loop that writes an expression, and the one that measures it.
- `Expr.inorder_traversal`: the loop for the tokens ends with those that recursion gives.
- `Expr.height_le_length_literals`, `Expr.length_literals_le_of_height_le`: how high a tree with a
  given number of literals can be.
- `Expr.depth_traversal`: the loop for the depth ends with the height of the tree.
-/

namespace Arith

/-! ## Loops over a stack -/

/-- A loop that works off a stack.  Each round takes the topmost item off, which changes the result
so far and puts new items on the stack. -/
structure StackLoop (σ ι : Type) where
  /-- What becomes of the result so far when an item is taken off. -/
  visit : σ → ι → σ
  /-- The items that are put on the stack for the one taken off, the topmost first. -/
  push : ι → List ι

namespace StackLoop

variable {σ ι : Type}

/-- The result of a loop, if its stack is empty after no more than the given number of rounds. -/
def run (loop : StackLoop σ ι) : Nat → σ → List ι → Option σ
  | _, result, [] => some result
  | 0, _, _ :: _ => none
  | rounds + 1, result, item :: rest =>
      loop.run rounds (loop.visit result item) (loop.push item ++ rest)

/-- An account of a loop: how many rounds any stack takes, and what comes out in the end.  A round
takes one from the number, and leaves what comes out as it is. -/
structure Account (loop : StackLoop σ ι) (work : List ι → Nat) (final : σ → List ι → σ) :
    Prop where
  work_nil : work [] = 0
  work_cons : ∀ item rest, work (item :: rest) = work (loop.push item ++ rest) + 1
  final_nil : ∀ result, final result [] = result
  final_cons : ∀ result item rest,
    final result (item :: rest) = final (loop.visit result item) (loop.push item ++ rest)

/-- A loop ends exactly when it has as many rounds as its account says, and then with the result
that the account says. -/
theorem Account.run_eq {loop : StackLoop σ ι} {work : List ι → Nat} {final : σ → List ι → σ}
    (h : loop.Account work final) (rounds : Nat) (result : σ) (stack : List ι) :
    loop.run rounds result stack =
      if work stack ≤ rounds then some (final result stack) else none := by
  induction rounds generalizing result stack with
  | zero =>
    cases stack with
    | nil => simp [run, h.work_nil, h.final_nil]
    | cons item rest =>
      -- The item takes a round, and there is none.
      simp [run, h.work_cons]
  | succ rounds ih =>
    cases stack with
    | nil => simp [run, h.work_nil, h.final_nil]
    | cons item rest =>
      rw [run, ih, ← h.final_cons, h.work_cons]
      simp only [Nat.add_le_add_iff_right]

end StackLoop

/-! ## Writing -/

namespace Layout

variable {α : Type}

/-- The loop that writes an expression.  A piece and a literal are written when they are taken off
the stack; a binary node is replaced by its parts. -/
def loop (L : Layout α) : StackLoop (List α) (Pending α) where
  visit written
    | .piece a => written ++ [a]
    | .tree (.literal value) => written ++ [L.leaf value]
    | .tree (.binary _ _ _) => written
  push
    | .piece _ => []
    | .tree (.literal _) => []
    | .tree (.binary left operator right) => L.expand left operator right

/-- The loop takes as many rounds as what is pending weighs, and writes what is pending. -/
theorem loop_account (L : Layout α) :
    L.loop.Account L.pendingWeight fun written pending => L.writeAll written.reverse pending where
  work_nil := rfl
  work_cons item rest := by
    rcases item with a | ⟨value⟩ | ⟨left, operator, right⟩
    · simp [loop, pendingWeight, Nat.add_comm]
    · simp [loop, pendingWeight, weight, Nat.add_comm]
    · -- The parts of a node weigh one less than the node, which is the round of the node itself.
      have hexpand := L.pendingWeight_expand left operator right
      simp only [loop, pendingWeight, pendingWeight_append]
      omega
  final_nil written := by simp [writeAll]
  final_cons written item rest := by
    rcases item with a | ⟨value⟩ | ⟨left, operator, right⟩ <;> simp [loop, writeAll]

/-- An expression is written in as many rounds as it weighs. -/
theorem loop_run_tree (L : Layout α) (rounds : Nat) (e : Expr) :
    L.loop.run rounds [] [.tree e] =
      if L.weight e ≤ rounds then some (e.write L) else none := by
  rw [L.loop_account.run_eq]
  simp [pendingWeight, Expr.write]

end Layout

namespace Expr

/-- For the tokens of an expression, each operator takes a round with its node and one by itself,
and each literal takes one. -/
theorem weight_tokenLayout (e : Expr) :
    tokenLayout.weight e = 3 * e.operators.length + 1 := by
  induction e with
  | literal => rfl
  | binary left operator right ihl ihr =>
    rw [Layout.weight, ihl, ihr]
    simp only [tokenLayout, operators, List.length_append, List.length_cons, List.length_nil]
    omega

/-- The loop for the tokens of an expression ends, and gives them as recursion on the tree does.
It takes three rounds for each binary node and one more.  The tokens are two for each binary node
and one more. -/
theorem inorder_traversal (e : Expr) :
    (∀ rounds, tokenLayout.loop.run rounds [] [.tree e] =
      if 3 * e.operators.length + 1 ≤ rounds then some e.tokens else none) ∧
    e.inorder = e.tokens ∧ e.inorder.length = 2 * e.operators.length + 1 := by
  refine ⟨?_, e.inorder_eq_tokens, ?_⟩
  · intro rounds
    rw [Layout.loop_run_tree, weight_tokenLayout, ← inorder, inorder_eq_tokens]
  · rw [inorder_eq_tokens, length_tokens]

/-! ## Measuring -/

/-- The loop that measures how deep an expression is.  Each subtree on the stack stands with its
own depth, and its operands stand one deeper. -/
def depthLoop : StackLoop Nat (Expr × Nat) where
  visit running p := max running p.2
  push
    | (literal _, _) => []
    | (binary left _ right, depth) => [(right, depth + 1), (left, depth + 1)]

/-- The loop takes a round for each node of what is pending, and finds the depth that is reached. -/
theorem depthLoop_account : depthLoop.Account pendingSize deepest where
  work_nil := rfl
  work_cons item rest := by
    rcases item with ⟨⟨value⟩ | ⟨left, operator, right⟩, depth⟩
    · simp [depthLoop, pendingSize, size, Nat.add_comm]
    · simp only [depthLoop, pendingSize, size, List.cons_append, List.nil_append]
      omega
  final_nil running := by rw [deepest]
  final_cons running item rest := by
    rcases item with ⟨⟨value⟩ | ⟨left, operator, right⟩, depth⟩ <;> simp [depthLoop, deepest]

/-- An expression is no higher than it has literals: every operand beside a longest path has a
literal of its own. -/
theorem height_le_length_literals (e : Expr) : e.height ≤ e.literals.length := by
  induction e with
  | literal => exact Nat.le_refl 1
  | binary left operator right ihl ihr =>
    have hl := left.height_pos
    have hr := right.height_pos
    rw [height, literals, List.length_append]
    omega

/-- An expression has no more literals than the full tree of a height that it fits into. -/
theorem length_literals_le_of_height_le {e : Expr} {levels : Nat} (h : e.height ≤ levels + 1) :
    e.literals.length ≤ 2 ^ levels := by
  induction e generalizing levels with
  | literal => exact Nat.one_le_two_pow
  | binary left operator right ihl ihr =>
    have hpos := left.height_pos
    rw [height] at h
    -- Both operands fit into one level less.
    obtain ⟨below, rfl⟩ : ∃ below, levels = below + 1 := ⟨levels - 1, by omega⟩
    have hleft : left.literals.length ≤ 2 ^ below := ihl (by omega)
    have hright : right.literals.length ≤ 2 ^ below := ihr (by omega)
    calc
      (binary left operator right).literals.length
          = left.literals.length + right.literals.length := List.length_append
      _ ≤ 2 ^ below + 2 ^ below := Nat.add_le_add hleft hright
      _ = 2 ^ (below + 1) := by rw [pow_succ, mul_two]

/-- The loop for the depth of an expression ends after one round for each node, and gives the
height of the tree, as recursion does.  A tree is no higher than it has literals, and has no more
literals than the full tree of its height. -/
theorem depth_traversal (e : Expr) :
    (∀ rounds, depthLoop.run rounds 0 [(e, 1)] =
      if e.size ≤ rounds then some e.height else none) ∧
    e.depth = e.height ∧
    e.height ≤ e.literals.length ∧ e.literals.length ≤ 2 ^ (e.height - 1) := by
  refine ⟨?_, e.depth_eq_height, e.height_le_length_literals, ?_⟩
  · intro rounds
    rw [depthLoop_account.run_eq, ← depth, depth_eq_height]
    simp [pendingSize]
  · have hpos := e.height_pos
    exact length_literals_le_of_height_le (by omega)

end Expr

end Arith
