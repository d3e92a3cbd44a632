import Arith.Precedence
import Arith.Program

/-!
# Grammar

The grammar of programs as derivations, apart from how programs are read:

    program        := addition*
    addition       := multiplication | addition (PLUS | MINUS) multiplication
    multiplication := NUMBER | multiplication (STAR | SLASH) NUMBER

A derivation goes with the tree that it stands for.  Only the kinds of tokens
decide what is derived; their texts are carried into the tree as they are.

Main results:

- `Grammar.Multiplication`, `Grammar.Addition`, `Grammar.Statements`: the
  derivations.
- `Grammar.Multiplication.tokens_eq`, `Grammar.Addition.tokens_eq`: a derived
  tree has the tokens that it is derived from.
-/

namespace Arith.Grammar

/-- Derivations of multiplications. -/
inductive Multiplication : List Token → Expr → Prop
  | number {t : Token} (ht : t.kind = .number) : Multiplication [t] (.literal t.value)
  | extend {ts : List Token} {left : Expr} {operator t : Token}
      (hleft : Multiplication ts left)
      (hoperator : operator.kind = .star ∨ operator.kind = .slash)
      (ht : t.kind = .number) :
      Multiplication (ts ++ [operator, t]) (.binary left operator (.literal t.value))

/-- Derivations of additions. -/
inductive Addition : List Token → Expr → Prop
  | term {ts : List Token} {e : Expr} (h : Multiplication ts e) : Addition ts e
  | extend {ts us : List Token} {left right : Expr} {operator : Token}
      (hleft : Addition ts left)
      (hoperator : operator.kind = .plus ∨ operator.kind = .minus)
      (hright : Multiplication us right) :
      Addition (ts ++ operator :: us) (.binary left operator right)

/-- Derivations of sequences of statements, which have nothing between them. -/
inductive Statements : List Token → List Statement → Prop
  | nil : Statements [] []
  | cons {ts us : List Token} {e : Expr} {rest : List Statement}
      (hfirst : Addition ts e) (hrest : Statements us rest) :
      Statements (ts ++ us) (⟨e⟩ :: rest)

/-- A number token is the number token of its text. -/
theorem number_value_eq {t : Token} (ht : t.kind = .number) : Token.number t.value = t := by
  cases t
  simp_all [Token.number]

/-- A derived multiplication has the tokens that it is derived from. -/
theorem Multiplication.tokens_eq {ts : List Token} {e : Expr} (h : Multiplication ts e) :
    e.tokens = ts := by
  induction h with
  | number ht => simp [Expr.tokens, number_value_eq ht]
  | extend _ _ ht ih => simp [Expr.tokens, ih, number_value_eq ht]

/-- A derived addition has the tokens that it is derived from. -/
theorem Addition.tokens_eq {ts : List Token} {e : Expr} (h : Addition ts e) :
    e.tokens = ts := by
  induction h with
  | term h => exact h.tokens_eq
  | extend _ _ hright ih => simp [Expr.tokens, ih, hright.tokens_eq]

end Arith.Grammar
