import Arith.Expr.WellFormed
import Arith.Grammar

/-!
# Derived trees are the well-formed ones

The grammar says which production calls which, and well-formedness says how tightly
operators bind.  They leave the same trees, each derived from its own tokens.

Main results:

- `Expr.OperatorLevels.mono`: levels are known up to a weaker property.
- `Grammar.Multiplication.wellFormed`, `Grammar.Addition.wellFormed`: derived trees
  are well-formed.
- `Expr.WellFormed.multiplication`, `Expr.WellFormed.addition`: well-formed trees are
  derived from their tokens.
- `Grammar.statements_iff`: the statements that a sequence derives.
-/

namespace Arith

namespace Level

/-- Every level is at least the loosest one. -/
theorem additive_le (level : Level) : additive ≤ level :=
  Nat.zero_le _

/-- Only the tightest level is at least itself. -/
theorem multiplicative_le_iff {level : Level} :
    multiplicative ≤ level ↔ level = multiplicative := by
  cases level <;> decide

/-- Only the tightest level binds more tightly than the loosest. -/
theorem additive_lt_iff {level : Level} : additive < level ↔ level = multiplicative := by
  cases level <;> decide

/-- No level binds more tightly than the tightest. -/
theorem not_multiplicative_lt (level : Level) : ¬ multiplicative < level := by
  cases level <;> decide

/-- The kinds that bind at the tightest level. -/
theorem of?_eq_multiplicative_iff {k : Kind} :
    of? k = some multiplicative ↔ k = .star ∨ k = .slash := by
  rw [← mem_operators_iff, mem_multiplicative_iff]

/-- The kinds that bind at the loosest level. -/
theorem of?_eq_additive_iff {k : Kind} : of? k = some additive ↔ k = .plus ∨ k = .minus := by
  rw [← mem_operators_iff, mem_additive_iff]

end Level

namespace Expr

/-! ## Levels of operators -/

/-- Levels are known up to a weaker property. -/
theorem OperatorLevels.mono {P Q : Level → Prop} {e : Expr} (h : e.OperatorLevels P)
    (hPQ : ∀ level, P level → Q level) : e.OperatorLevels Q := by
  intro o ho
  rcases h o ho with ⟨level, hlevel, hP⟩
  exact ⟨level, hlevel, hPQ level hP⟩

/-- The operators of a node are those of its operands and its own. -/
theorem operatorLevels_binary_iff {P : Level → Prop} {left right : Expr} {operator : Token} :
    (binary left operator right).OperatorLevels P ↔
      left.OperatorLevels P ∧ (∃ level, Level.of? operator.kind = some level ∧ P level) ∧
        right.OperatorLevels P := by
  simp only [OperatorLevels, operators, List.mem_append, List.mem_cons]
  constructor
  · intro h
    refine ⟨?_, h operator (by simp), ?_⟩
    · intro o ho
      exact h o (.inl ho)
    · intro o ho
      exact h o (.inr (.inr ho))
  · intro h o ho
    rcases h with ⟨hleft, hoperator, hright⟩
    rcases ho with ho | ho | ho
    · exact hleft o ho
    · rw [ho]
      exact hoperator
    · exact hright o ho

/-- A literal has no operators to speak of. -/
theorem operatorLevels_literal (P : Level → Prop) (value : String) :
    (literal value).OperatorLevels P := by
  intro o ho
  simp [operators] at ho

/-- All the operators of a well-formed tree bind at some level. -/
theorem WellFormed.operatorLevels {e : Expr} (h : e.WellFormed) :
    e.OperatorLevels (Level.additive ≤ ·) := by
  induction e with
  | literal value => exact operatorLevels_literal _ value
  | binary left operator right ihl ihr =>
    rcases h with ⟨hleft, hright, level, hlevel, -, -⟩
    exact operatorLevels_binary_iff.2
      ⟨ihl hleft, ⟨level, hlevel, level.additive_le⟩, ihr hright⟩

end Expr

namespace Grammar

/-! ## Derived trees are well-formed -/

/-- A derived multiplication is well-formed, with multiplicative operators only. -/
theorem Multiplication.wellFormed {ts : List Token} {e : Expr} (h : Multiplication ts e) :
    e.WellFormed ∧ e.OperatorLevels (Level.multiplicative ≤ ·) := by
  induction h with
  | @number t ht => exact ⟨trivial, Expr.operatorLevels_literal _ t.value⟩
  | @extend ts left operator t _ ho _ ih =>
    rcases ih with ⟨hwf, hlevels⟩
    have hlevel := Level.of?_eq_multiplicative_iff.2 ho
    have hle : Level.multiplicative ≤ .multiplicative := Level.multiplicative_le_iff.2 rfl
    refine ⟨⟨hwf, trivial, .multiplicative, hlevel, hlevels, ?_⟩, ?_⟩
    · exact Expr.operatorLevels_literal _ t.value
    · apply Expr.operatorLevels_binary_iff.2
      exact ⟨hlevels, ⟨.multiplicative, hlevel, hle⟩, Expr.operatorLevels_literal _ t.value⟩

/-- A derived addition is well-formed. -/
theorem Addition.wellFormed {ts : List Token} {e : Expr} (h : Addition ts e) :
    e.WellFormed := by
  induction h with
  | term h => exact h.wellFormed.1
  | extend _ ho hright ih =>
    rcases hright.wellFormed with ⟨hwf, hlevels⟩
    have hlevel := Level.of?_eq_additive_iff.2 ho
    refine ⟨ih, hwf, .additive, hlevel, ih.operatorLevels, ?_⟩
    apply hlevels.mono
    intro level hle
    exact Level.additive_lt_iff.2 (Level.multiplicative_le_iff.1 hle)

end Grammar

namespace Expr

open Grammar

/-! ## Well-formed trees are derived -/

/-- Where every operator would have to bind more tightly than the tightest level
there is none. -/
theorem eq_literal_of_operatorLevels {e : Expr}
    (h : e.OperatorLevels (Level.multiplicative < ·)) : ∃ value, e = literal value := by
  cases e with
  | literal value => exact ⟨value, rfl⟩
  | binary left operator right =>
    rcases (operatorLevels_binary_iff.1 h).2.1 with ⟨level, -, hlt⟩
    exact absurd hlt level.not_multiplicative_lt

/-- A well-formed tree with multiplicative operators only is a multiplication. -/
theorem WellFormed.multiplication {e : Expr} (h : e.WellFormed)
    (hlevels : e.OperatorLevels (Level.multiplicative ≤ ·)) : Multiplication e.tokens e := by
  induction e with
  | literal value => exact .number rfl
  | binary left operator right ihl ihr =>
    rcases h with ⟨hleft, -, level, hlevel, hl, hr⟩
    rcases operatorLevels_binary_iff.1 hlevels with ⟨hleftLevels, ⟨level', hlevel', hle⟩, -⟩
    have hsame : level = level' := Option.some.inj (hlevel.symm.trans hlevel')
    subst hsame
    rw [Level.multiplicative_le_iff.1 hle] at hlevel hr
    rcases eq_literal_of_operatorLevels hr with ⟨value, hvalue⟩
    subst hvalue
    exact .extend (ihl hleft hleftLevels) (Level.of?_eq_multiplicative_iff.1 hlevel)
      (t := .number value) rfl

/-- A well-formed tree is an addition. -/
theorem WellFormed.addition {e : Expr} (h : e.WellFormed) : Addition e.tokens e := by
  induction e with
  | literal value => exact .term (.number (t := .number value) rfl)
  | binary left operator right ihl ihr =>
    rcases h with ⟨hleft, hright, level, hlevel, hl, hr⟩
    cases level with
    | additive =>
      have hrightLevels : right.OperatorLevels (Level.multiplicative ≤ ·) := by
        apply hr.mono
        intro level hlt
        exact Level.multiplicative_le_iff.2 (Level.additive_lt_iff.1 hlt)
      exact .extend (ihl hleft) (Level.of?_eq_additive_iff.1 hlevel)
        (hright.multiplication hrightLevels)
    | multiplicative =>
      -- The node is a multiplication as a whole, and its left operand one inside it.
      have hnode : (binary left operator right).WellFormed :=
        ⟨hleft, hright, .multiplicative, hlevel, hl, hr⟩
      have hliteral : right.OperatorLevels (Level.multiplicative ≤ ·) := by
        apply hr.mono
        intro level hlt
        exact absurd hlt level.not_multiplicative_lt
      have hle : Level.multiplicative ≤ .multiplicative := Level.multiplicative_le_iff.2 rfl
      apply Addition.term
      apply hnode.multiplication
      exact operatorLevels_binary_iff.2 ⟨hl, ⟨.multiplicative, hlevel, hle⟩, hliteral⟩

end Expr

namespace Grammar

/-- A sequence derives the statements with well-formed trees whose tokens it holds
in order. -/
theorem statements_iff {us : List Token} {ss : List Statement} :
    Statements us ss ↔
      (∀ s ∈ ss, s.expr.WellFormed) ∧ us = ss.flatMap fun s => s.expr.tokens := by
  constructor
  · intro h
    induction h with
    | nil => simp
    | cons hfirst _ ih =>
      rcases ih with ⟨hrest, htokens⟩
      constructor
      · intro s hs
        rcases List.mem_cons.1 hs with rfl | hs
        · exact hfirst.wellFormed
        · exact hrest s hs
      · rw [htokens, List.flatMap_cons, hfirst.tokens_eq]
  · intro h
    rcases h with ⟨hss, htokens⟩
    subst htokens
    induction ss with
    | nil => exact .nil
    | cons s ss ih =>
      have hfirst := (hss s List.mem_cons_self).addition
      have hrest : ∀ s' ∈ ss, s'.expr.WellFormed := by
        intro s' hs'
        exact hss s' (List.mem_cons_of_mem s hs')
      exact .cons hfirst (ih hrest)

end Grammar

/-- The in-order tokens of a program are those of its trees. -/
theorem Program.inorder_eq (p : Program) :
    p.inorder = p.statements.flatMap fun s => s.expr.tokens := by
  simp [inorder, Expr.inorder_eq_tokens]

end Arith
