import Arith.Expr.Basic

/-!
# Writing expressions from left to right

An expression is written piece by piece, with the parts not yet written kept on
a worklist, so that trees of any depth are written in constant stack.  What the
pieces are is the choice of a layout; the in-order tokens of an expression and
its text are two of them.

Main results:

- `Expr.write`: the pieces of an expression under a layout.
- `Layout.writeAll_eq`, `Expr.write_eq_pieces`: the worklist writes what the
  recursion on the tree gives.
- `Expr.inorder`, `Expr.inorder_eq_tokens`: the in-order tokens.
- `Expr.render`, `Expr.renderNode`: the text of an expression, and of its root.
-/

namespace Arith

/-- The pieces that are written for an expression: one for a literal, and for a
binary node those before its left operand, between its operands, and after its
right operand. -/
structure Layout (α : Type) where
  leaf : String → α
  opening : List α
  between : Token → List α
  closing : List α

/-- A part of an expression that is still to be written. -/
inductive Pending (α : Type) where
  | piece (a : α)
  | tree (e : Expr)

variable {α : Type}

namespace Layout

/-- The number of steps that it takes to write an expression. -/
def weight (L : Layout α) : Expr → Nat
  | .literal _ => 1
  | .binary left operator right =>
      1 + L.opening.length + L.weight left + (L.between operator).length + L.weight right +
        L.closing.length

/-- The number of steps that it takes to write what is pending. -/
def pendingWeight (L : Layout α) : List (Pending α) → Nat
  | [] => 0
  | .piece _ :: rest => 1 + L.pendingWeight rest
  | .tree e :: rest => L.weight e + L.pendingWeight rest

/-- The parts of a binary node, in the order in which they are written. -/
def expand (L : Layout α) (left : Expr) (operator : Token) (right : Expr) :
    List (Pending α) :=
  L.opening.map .piece ++ .tree left :: (L.between operator).map .piece ++
    .tree right :: L.closing.map .piece

@[simp]
theorem pendingWeight_append (L : Layout α) (ps qs : List (Pending α)) :
    L.pendingWeight (ps ++ qs) = L.pendingWeight ps + L.pendingWeight qs := by
  induction ps with
  | nil => simp [pendingWeight]
  | cons p ps ih => cases p <;> simp [pendingWeight, ih] <;> omega

@[simp]
theorem pendingWeight_map_piece (L : Layout α) (as : List α) :
    L.pendingWeight (as.map .piece) = as.length := by
  induction as with
  | nil => rfl
  | cons a as ih => simp [pendingWeight, ih]; omega

/-- Writing the parts of a node takes one step less than writing the node. -/
theorem pendingWeight_expand (L : Layout α) (left : Expr) (operator : Token) (right : Expr) :
    1 + L.pendingWeight (L.expand left operator right) =
      L.weight (.binary left operator right) := by
  simp [expand, pendingWeight, weight]
  omega

/-- Writes what is pending after the pieces already written, which are kept
latest first. -/
def writeAll (L : Layout α) (written : List α) : List (Pending α) → List α
  | [] => written.reverse
  | .piece a :: rest => L.writeAll (a :: written) rest
  | .tree (.literal value) :: rest => L.writeAll (L.leaf value :: written) rest
  | .tree (.binary left operator right) :: rest =>
      L.writeAll written (L.expand left operator right ++ rest)
termination_by pending => L.pendingWeight pending
decreasing_by
  · simp [pendingWeight]
  · simp [pendingWeight, weight]
  · rw [pendingWeight_append, pendingWeight, ← pendingWeight_expand]
    omega

/-! ## The worklist writes by recursion -/

/-- The pieces of an expression under a layout, by recursion on the tree. -/
def pieces (L : Layout α) : Expr → List α
  | .literal value => [L.leaf value]
  | .binary left operator right =>
      L.opening ++ L.pieces left ++ L.between operator ++ L.pieces right ++ L.closing

/-- The pieces of what is pending, one part after the other. -/
def pendingPieces (L : Layout α) : List (Pending α) → List α
  | [] => []
  | .piece a :: rest => a :: L.pendingPieces rest
  | .tree e :: rest => L.pieces e ++ L.pendingPieces rest

@[simp]
theorem pendingPieces_append (L : Layout α) (ps qs : List (Pending α)) :
    L.pendingPieces (ps ++ qs) = L.pendingPieces ps ++ L.pendingPieces qs := by
  induction ps with
  | nil => rfl
  | cons p ps ih => cases p <;> simp [pendingPieces, ih]

@[simp]
theorem pendingPieces_map_piece (L : Layout α) (as : List α) :
    L.pendingPieces (as.map .piece) = as := by
  induction as with
  | nil => rfl
  | cons a as ih => simp [pendingPieces, ih]

/-- The parts of a node hold the pieces of the node. -/
theorem pendingPieces_expand (L : Layout α) (left : Expr) (operator : Token) (right : Expr) :
    L.pendingPieces (L.expand left operator right) =
      L.pieces (.binary left operator right) := by
  simp [expand, pendingPieces, pieces]

/-- The worklist writes the pieces of its parts after those already written. -/
theorem writeAll_eq (L : Layout α) (written : List α) (pending : List (Pending α)) :
    L.writeAll written pending = written.reverse ++ L.pendingPieces pending := by
  fun_induction writeAll L written pending with
  | case1 => simp [pendingPieces]
  | case2 written a rest ih => simp [ih, pendingPieces]
  | case3 written value rest ih => simp [ih, pendingPieces, pieces]
  | case4 written left operator right rest ih =>
    rw [ih, pendingPieces_append, pendingPieces_expand, pendingPieces]

end Layout

namespace Expr

/-- The pieces of an expression under a layout, from left to right. -/
def write (L : Layout α) (e : Expr) : List α :=
  L.writeAll [] [.tree e]

/-- An expression is written as the recursion on the tree says. -/
theorem write_eq_pieces (L : Layout α) (e : Expr) : e.write L = L.pieces e := by
  simp [write, Layout.writeAll_eq, Layout.pendingPieces]

/-! ## In-order tokens -/

/-- Literals become number tokens and operators stand between their operands. -/
def tokenLayout : Layout Token where
  leaf := .number
  opening := []
  between operator := [operator]
  closing := []

/-- The tokens from which an expression is read, without the end sentinel. -/
def inorder (e : Expr) : List Token :=
  e.write tokenLayout

/-- The in-order tokens are those that the recursion on the tree gives. -/
theorem inorder_eq_tokens (e : Expr) : e.inorder = e.tokens := by
  rw [inorder, write_eq_pieces]
  induction e with
  | literal => rfl
  | binary left operator right ihl ihr =>
    rw [Layout.pieces, ihl, ihr]
    simp [tokenLayout, tokens]

/-! ## Text -/

/-- A binary node is written in brackets, its operands and the text of its
operator each under a label. -/
def textLayout : Layout String where
  leaf value := "Literal: " ++ value
  opening := ["[ Binary: left = "]
  between operator := [", operator = ", operator.value, ", right = "]
  closing := [" ]"]

/-- The text of an expression. -/
def render (e : Expr) : String :=
  String.join (e.write textLayout)

/-- The text of an expression's root, with its operands filled in as texts. -/
def renderNode : Expr → String
  | literal value => "Literal: " ++ value
  | binary left operator right =>
      "[ Binary: left = " ++ left.render ++ ", operator = " ++ operator.value ++
        ", right = " ++ right.render ++ " ]"

end Expr

end Arith
