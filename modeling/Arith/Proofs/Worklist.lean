import Arith.Expr.Layout

/-!
# Worklists and recursion

An expression is written with a worklist on which pieces of text and whole subtrees wait for their
turn.  The pieces come out in the order in which recursion on the tree gives them, whatever the
layout, so that only recursion is left to look at: put together, the pieces of the text layout are
the text that recursion on the tree gives, and that is also the text of the root with the texts of
its operands filled in.

Main results:

- `Expr.text`: the text of an expression, by recursion.
- `Expr.join_pieces`: the pieces of an expression make up its text.
- `Expr.renderers_agree`: the worklist, the recursion and the root's own form give one text.
-/

namespace Arith

namespace Expr

/-- The text of an expression, by recursion on the tree. -/
def text : Expr → String
  | literal value => "Literal: " ++ value
  | binary left operator right =>
      "[ Binary: left = " ++ left.text ++ ", operator = " ++ operator.value ++ ", right = " ++
        right.text ++ " ]"

theorem text_literal (value : String) : (literal value).text = "Literal: " ++ value :=
  rfl

theorem text_binary (left : Expr) (operator : Token) (right : Expr) :
    (binary left operator right).text =
      "[ Binary: left = " ++ left.text ++ ", operator = " ++ operator.value ++ ", right = " ++
        right.text ++ " ]" :=
  rfl

/-- The pieces that recursion on the tree gives, put together, are the text of the tree. -/
theorem join_pieces (e : Expr) : String.join (textLayout.pieces e) = e.text := by
  induction e with
  | literal value => simp [Layout.pieces, textLayout, text_literal]
  | binary left operator right ihl ihr =>
    simp only [Layout.pieces, String.join_append, ihl, ihr, text_binary]
    simp [textLayout, String.append_assoc]

/-- The text of an expression is the one that recursion on the tree gives. -/
theorem render_eq_text (e : Expr) : e.render = e.text := by
  rw [render, write_eq_pieces, join_pieces]

/-- An expression is written as its root is, with the texts of the operands filled in. -/
theorem renderNode_eq_render (e : Expr) : e.renderNode = e.render := by
  rw [render_eq_text]
  cases e with
  | literal value => rfl
  | binary left operator right =>
    rw [text_binary, ← render_eq_text, ← render_eq_text]
    rfl

/-- All ways to write an expression agree: the worklist writes the text that recursion on the tree
gives, and so does the form of the root in which the texts of its operands are filled in. -/
theorem renderers_agree :
    (∀ e : Expr, e.render = e.text) ∧
      ∀ left operator right,
        (binary left operator right).renderNode = (binary left operator right).render := by
  refine ⟨render_eq_text, ?_⟩
  intro left operator right
  exact renderNode_eq_render (binary left operator right)

end Expr

end Arith
