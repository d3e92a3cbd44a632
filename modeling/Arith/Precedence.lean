import Arith.Token

/-!
# Precedence

The two levels at which binary operators bind, loosest first.

Main results:

- `Level.operators`: the operator kinds of a level, in the order they are tried.
- `Level.mem_operators_iff`: membership in a level and `Level.of?` say the same.
- `Level.of?_isSome`: exactly the operator kinds have a level.
-/

namespace Arith

/-- The precedence levels of the binary operators. -/
inductive Level where
  | additive
  | multiplicative
deriving DecidableEq

namespace Level

/-- The levels, loosest first. -/
def all : List Level :=
  [additive, multiplicative]

/-- The operator kinds that bind at a level. -/
def operators : Level → List Kind
  | additive => [.minus, .plus]
  | multiplicative => [.slash, .star]

/-- The level at which a kind binds; kinds that are no operators have none. -/
def of? (k : Kind) : Option Level :=
  all.find? fun level => level.operators.contains k

/-- The place of a level in the order from loosest to tightest. -/
def rank : Level → Nat
  | additive => 0
  | multiplicative => 1

/-- Levels are compared by how tightly they bind. -/
instance : Ord Level where
  compare a b := compare a.rank b.rank

instance : LE Level where
  le a b := a.rank ≤ b.rank

instance : LT Level where
  lt a b := a.rank < b.rank

instance (a b : Level) : Decidable (a ≤ b) :=
  inferInstanceAs (Decidable (a.rank ≤ b.rank))

instance (a b : Level) : Decidable (a < b) :=
  inferInstanceAs (Decidable (a.rank < b.rank))

/-- A kind is an operator of a level exactly when that is the level it binds at. -/
theorem mem_operators_iff {k : Kind} {level : Level} :
    k ∈ level.operators ↔ of? k = some level := by
  cases k <;> cases level <;> decide

/-- The loosest operators are those of addition and subtraction. -/
theorem mem_additive_iff {k : Kind} : k ∈ additive.operators ↔ k = .plus ∨ k = .minus := by
  simp [operators, or_comm]

/-- The tightest operators are those of multiplication and division. -/
theorem mem_multiplicative_iff {k : Kind} :
    k ∈ multiplicative.operators ↔ k = .star ∨ k = .slash := by
  simp [operators, or_comm]

/-- Exactly the operator kinds bind at some level. -/
theorem of?_isSome (k : Kind) : (of? k).isSome = k.isOperator := by
  cases k <;> rfl

end Level

end Arith
