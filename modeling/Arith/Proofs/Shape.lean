import Arith.Grammar
import Mathlib.Data.List.Chain

/-!
# Shapes of token sequences

What can be seen of a derived token sequence without a derivation: it starts and
ends with a number, and each of its operators is followed by a number.  A sequence
that breaks off right after an operator is unfinished, and only that.

Main results:

- `Supplies`, `Finished`, `Unfinished`: the two shapes.
- `Finished.append`, `Finished.extend`: how finished sequences are put together.
- `Finished.append_unfinished`, `Finished.extend_unfinished`: how a sequence comes
  to be unfinished.
- `Grammar.Addition.finished`, `Grammar.Statements.finished`: derived sequences are
  finished.
-/

namespace Arith

/-- A kind is an operator if it is neither the end of input nor a number. -/
theorem Kind.isOperator_of_ne {k : Kind} (heof : k ≠ .eof) (hnumber : k ≠ .number) :
    k.isOperator = true := by
  cases k <;> simp_all [isOperator, glyph?]

/-- An operator is neither the end of input nor a number. -/
theorem Kind.ne_of_isOperator {k : Kind} (hk : k.isOperator = true) : k ≠ .eof ∧ k ≠ .number := by
  cases k <;> simp_all [isOperator, glyph?]

/-- Whether the token after another one is a number, if that is needed. -/
def Supplies (o t : Token) : Prop :=
  o.kind.isOperator = true → t.kind = .number

/-- A sequence without end tokens in which no operator lacks an operand. -/
structure Finished (ts : List Token) : Prop where
  head : ∀ t ∈ ts.head?, t.kind = .number
  last : ∀ t ∈ ts.getLast?, t.kind = .number
  orderly : ts.IsChain Supplies
  kind_ne : ∀ t ∈ ts, t.kind ≠ .eof

/-- A sequence that breaks off after an operator of one of the given kinds, and
lacks only the right operand of that. -/
structure Unfinished (kinds : List Kind) (ts : List Token) : Prop where
  head : ∀ t ∈ ts.head?, t.kind = .number
  last : ∃ o ∈ ts.getLast?, o.kind ∈ kinds ∧ o.kind.isOperator = true
  orderly : ts.IsChain Supplies

/-- A number needs nothing after it. -/
theorem supplies_of_number {o : Token} (ho : o.kind = .number) (t : Token) : Supplies o t := by
  intro hoperator
  rw [ho] at hoperator
  cases hoperator

/-- After a number the sequence may go on with anything. -/
theorem isChain_append_of_last {ts us : List Token} (hlast : ∀ t ∈ ts.getLast?, t.kind = .number)
    (hts : ts.IsChain Supplies) (hus : us.IsChain Supplies) : (ts ++ us).IsChain Supplies := by
  refine List.isChain_append.2 ⟨hts, hus, ?_⟩
  intro t ht u _
  exact supplies_of_number (hlast t ht) u

/-- Any token may stand before a number. -/
theorem isChain_cons_of_head {o : Token} {us : List Token}
    (hhead : ∀ u ∈ us.head?, u.kind = .number) (hus : us.IsChain Supplies) :
    (o :: us).IsChain Supplies := by
  refine List.isChain_cons.2 ⟨?_, hus⟩
  intro u hu _
  exact hhead u hu

/-- Two sequences in a row start with a number if the first does and has a token, or
if both do. -/
theorem head_append {ts us : List Token} (hts : ∀ t ∈ ts.head?, t.kind = .number)
    (hus : ts ≠ [] ∨ ∀ t ∈ us.head?, t.kind = .number) :
    ∀ t ∈ (ts ++ us).head?, t.kind = .number := by
  cases ts with
  | nil =>
    rcases hus with hne | hus
    · contradiction
    · exact hus
  | cons t ts => exact hts

namespace Finished

/-- The empty sequence lacks nothing. -/
theorem nil : Finished [] :=
  ⟨by simp, by simp, .nil, by simp⟩

/-- A number by itself is finished. -/
theorem singleton {t : Token} (ht : t.kind = .number) : Finished [t] :=
  ⟨by simpa using ht, by simpa using ht, .singleton t, by simp [ht]⟩

/-- Finished sequences in a row are finished. -/
theorem append {ts us : List Token} (hts : Finished ts) (hus : Finished us) :
    Finished (ts ++ us) := by
  refine ⟨head_append hts.head (.inr hus.head), ?_,
    isChain_append_of_last hts.last hts.orderly hus.orderly, ?_⟩
  · intro t ht
    rw [List.getLast?_append] at ht
    cases hlast : us.getLast? with
    | none =>
      have ht' : t ∈ ts.getLast? := by simpa [hlast] using ht
      exact hts.last t ht'
    | some u =>
      have ht' : t ∈ us.getLast? := by simpa [hlast] using ht
      exact hus.last t ht'
  · intro t ht
    rcases List.mem_append.1 ht with ht | ht
    · exact hts.kind_ne t ht
    · exact hus.kind_ne t ht

/-- An operator between finished sequences is supplied by the second. -/
theorem extend {ts us : List Token} {o : Token} (hts : Finished ts) (hne : ts ≠ [])
    (ho : o.kind ≠ .eof) (hus : Finished us) (hne' : us ≠ []) : Finished (ts ++ o :: us) := by
  have hchain := isChain_cons_of_head (o := o) hus.head hus.orderly
  refine ⟨head_append hts.head (.inl hne), ?_,
    isChain_append_of_last hts.last hts.orderly hchain, ?_⟩
  · intro t ht
    cases us with
    | nil => contradiction
    | cons u us =>
      have ht' : t ∈ (u :: us).getLast? := by simpa [List.getLast?_append] using ht
      exact hus.last t ht'
  · intro t ht
    rcases List.mem_append.1 ht with ht | ht
    · exact hts.kind_ne t ht
    · rcases List.mem_cons.1 ht with rfl | ht
      · exact ho
      · exact hus.kind_ne t ht

variable {kinds : List Kind}

/-- An unfinished sequence stays so after a finished one. -/
theorem append_unfinished {ts us : List Token} (hts : Finished ts) (hus : Unfinished kinds us) :
    Unfinished kinds (ts ++ us) := by
  rcases hus with ⟨hhead, ⟨o, ho, hkind⟩, horderly⟩
  refine ⟨head_append hts.head (.inr hhead), ⟨o, ?_, hkind⟩,
    isChain_append_of_last hts.last hts.orderly horderly⟩
  rw [List.getLast?_append, Option.mem_def.1 ho]
  rfl

/-- A sequence breaks off with an operator at its end. -/
theorem snoc {ts : List Token} {o : Token} (hts : Finished ts) (hne : ts ≠ [])
    (hkind : o.kind ∈ kinds) (ho : o.kind.isOperator = true) : Unfinished kinds (ts ++ [o]) :=
  ⟨head_append hts.head (.inl hne), ⟨o, by simp, hkind, ho⟩,
    isChain_append_of_last hts.last hts.orderly (.singleton o)⟩

/-- A sequence breaks off with an operator whose right operand does. -/
theorem extend_unfinished {ts us : List Token} {o : Token} (hts : Finished ts) (hne : ts ≠ [])
    (hus : Unfinished kinds us) : Unfinished kinds (ts ++ o :: us) := by
  rcases hus with ⟨hhead, ⟨last, hlast, hkind⟩, horderly⟩
  have hchain := isChain_cons_of_head (o := o) hhead horderly
  refine ⟨head_append hts.head (.inl hne), ⟨last, ?_, hkind⟩,
    isChain_append_of_last hts.last hts.orderly hchain⟩
  cases us with
  | nil => simp at hlast
  | cons u us => simpa [List.getLast?_append] using hlast

end Finished

/-- Which operators a sequence may break off after is known up to a larger choice. -/
theorem Unfinished.mono {kinds kinds' : List Kind} {ts : List Token} (h : Unfinished kinds ts)
    (hkinds : kinds ⊆ kinds') : Unfinished kinds' ts := by
  rcases h with ⟨hhead, ⟨o, ho, hkind, hoperator⟩, horderly⟩
  exact ⟨hhead, ⟨o, ho, hkinds hkind, hoperator⟩, horderly⟩

namespace Grammar

/-! ## Derived sequences are finished -/

/-- A derived multiplication has tokens, and lacks no operand. -/
theorem Multiplication.finished {ts : List Token} {e : Expr} (h : Multiplication ts e) :
    Finished ts ∧ ts ≠ [] := by
  induction h with
  | number ht => exact ⟨.singleton ht, by simp⟩
  | @extend ts left operator t _ ho ht ih =>
    rcases ih with ⟨hts, hne⟩
    have heof : operator.kind ≠ .eof := by
      rcases ho with ho | ho <;> simp [ho]
    have hfinished := hts.extend hne heof (.singleton ht) (by simp)
    exact ⟨hfinished, by simp⟩

/-- A derived addition has tokens, and lacks no operand. -/
theorem Addition.finished {ts : List Token} {e : Expr} (h : Addition ts e) :
    Finished ts ∧ ts ≠ [] := by
  induction h with
  | term h => exact h.finished
  | @extend ts us left right operator _ ho hright ih =>
    rcases ih with ⟨hts, hne⟩
    rcases hright.finished with ⟨hus, hne'⟩
    have heof : operator.kind ≠ .eof := by
      rcases ho with ho | ho <;> simp [ho]
    have hfinished := hts.extend hne heof hus hne'
    exact ⟨hfinished, by simp⟩

/-- Derived statements lack no operand. -/
theorem Statements.finished {ts : List Token} {ss : List Statement} (h : Statements ts ss) :
    Finished ts := by
  induction h with
  | nil => exact .nil
  | cons hfirst _ ih => exact hfirst.finished.1.append ih

end Grammar

end Arith
