import Arith.Expr.Basic

/-!
# Depth of expressions

The depth of an expression is found with a worklist of subtrees, each with the
depth at which it stands, and a running maximum, so that trees of any depth are
measured in constant stack.

Main results:

- `Expr.depth`: the nesting depth; a lone literal has depth 1.
- `Expr.deepest_eq`: the worklist takes the maximum over all pending subtrees.
- `Expr.depth_eq_height`: the depth is the height of the tree.
-/

namespace Arith

namespace Expr

/-- The number of nodes of an expression. -/
def size : Expr → Nat
  | literal _ => 1
  | binary left _ right => 1 + left.size + right.size

/-- The number of nodes of all pending subtrees. -/
def pendingSize : List (Expr × Nat) → Nat
  | [] => 0
  | (e, _) :: rest => e.size + pendingSize rest

/-- The largest of a running maximum and the depths that the pending subtrees
reach, each standing at the depth given with it. -/
def deepest (running : Nat) : List (Expr × Nat) → Nat
  | [] => running
  | (literal _, depth) :: rest => deepest (max running depth) rest
  | (binary left _ right, depth) :: rest =>
      deepest (max running depth) ((right, depth + 1) :: (left, depth + 1) :: rest)
termination_by pending => pendingSize pending
decreasing_by
  · simp only [pendingSize, size]
    omega
  · simp only [pendingSize, size]
    omega

/-- The nesting depth of an expression; a lone literal has depth 1. -/
def depth (e : Expr) : Nat :=
  deepest 0 [(e, 1)]

/-- Every tree has a node. -/
theorem height_pos (e : Expr) : 0 < e.height := by
  cases e with
  | literal => exact Nat.one_pos
  | binary left operator right => exact Nat.lt_of_lt_of_le Nat.one_pos (Nat.le_add_right _ _)

/-- The worklist takes the maximum over all pending subtrees, where a subtree
standing at depth `d` reaches one node less than its height beyond `d`. -/
theorem deepest_eq (running : Nat) (pending : List (Expr × Nat)) :
    deepest running pending =
      pending.foldl (fun m p => max m (p.2 + (p.1.height - 1))) running := by
  fun_induction deepest running pending with
  | case1 => rfl
  | case2 running value depth rest ih => simp [ih, height]
  | case3 running left operator right depth rest ih =>
    have hl := left.height_pos
    have hr := right.height_pos
    simp only [ih, List.foldl_cons, height]
    congr 1
    omega

/-- The depth of an expression is the height of its tree. -/
theorem depth_eq_height (e : Expr) : e.depth = e.height := by
  have h := e.height_pos
  simp [depth, deepest_eq]
  omega

end Expr

end Arith
