import Arith.Proofs.Language
import Arith.Proofs.Worklist

/-!
# Unique readability

A text of a program shows the texts of operators and not their kinds, and it has no quotes
around them.  Still it leaves no choice of what the program is, as long as its literals are
numerals and its operators their own glyphs: none of the punctuation can be part of these, so
where an expression ends can be told from its text alone.

Main results:

- `Numeral.IsNumeral.append_inj`: a numeral ends where no character can extend it.
- `Expr.render_literal`, `Expr.render_binary`: the text of an expression by recursion.
- `Expr.IsLexical.render_append_inj`: the text of an expression determines the expression and
  where it ends in a longer text.
- `Statement.lines_inj`: so does the text of statements, line by line.
- `Program.render_unambiguous`: programs with one text are one program.
-/

namespace Arith

namespace Numeral

/-- Whether a text that comes after a numeral cannot extend it. -/
def Delimits (rest : List Char) : Prop :=
  ∀ d ∈ rest.head?, d.isDigit = false ∧ d ≠ '.'

/-- Only digits and points are part of numerals. -/
theorem delimits_cons {d : Char} (hd : d.isDigit = false ∧ d ≠ '.') (rest : List Char) :
    Delimits (d :: rest) := by
  intro d' hd'
  have hsame : d = d' := by simpa using hd'
  rw [← hsame]
  exact hd

/-- A numeral is found whole before a text that cannot extend it. -/
theorem IsNumeral.split_of_delimits {n rest : List Char} (hn : IsNumeral n)
    (hrest : Delimits rest) : leading (n ++ rest) = n ∧ after (n ++ rest) = rest := by
  have hdigit : NoDigitHead rest := fun d hd => (hrest d hd).1
  have hpoint : '.' ∈ n ∨ fraction rest = [] := by
    right
    exact fraction_eq_nil fun d hd => (hrest d hd).2
  exact ⟨leading_append_eq hn hdigit hpoint, after_append_eq hn hdigit hpoint⟩

/-- A numeral ends where no character can extend it. -/
theorem IsNumeral.append_inj {n m x y : List Char} (hn : IsNumeral n) (hm : IsNumeral m)
    (hx : Delimits x) (hy : Delimits y) (h : n ++ x = m ++ y) : n = m ∧ x = y := by
  rcases hn.split_of_delimits hx with ⟨hleading, hafter⟩
  rcases hm.split_of_delimits hy with ⟨hleading', hafter'⟩
  rw [h] at hleading hafter
  exact ⟨hleading.symm.trans hleading', hafter.symm.trans hafter'⟩

end Numeral

open Numeral

/-- An operator with its own glyph as text is determined by the glyph. -/
theorem Token.eq_of_glyph {o o' : Token} {c : Char}
    (h : o.kind.glyph? = some c ∧ o.value = String.singleton c)
    (h' : o'.kind.glyph? = some c ∧ o'.value = String.singleton c) : o = o' := by
  have hkind := Kind.ofGlyph?_eq_some_iff.2 h.1
  rw [Kind.ofGlyph?_eq_some_iff.2 h'.1] at hkind
  cases o
  cases o'
  simp_all

namespace Expr

/-! ## The text of an expression by recursion -/

/-- A literal is written under a label. -/
theorem render_literal (value : String) : (literal value).render = "Literal: " ++ value := by
  rw [render_eq_text, text_literal]

/-- A binary node is written around the texts of its operands. -/
theorem render_binary (left : Expr) (operator : Token) (right : Expr) :
    (binary left operator right).render =
      "[ Binary: left = " ++ left.render ++ ", operator = " ++ operator.value ++
        ", right = " ++ right.render ++ " ]" := by
  rw [render_eq_text, render_eq_text, render_eq_text, text_binary]

/-- The tokens of a node can be spelled exactly when its operator can, and those of its operands
can. -/
theorem isLexical_binary_iff {left right : Expr} {operator : Token} :
    (binary left operator right).IsLexical ↔
      left.IsLexical ∧
        (∃ c, operator.kind.glyph? = some c ∧ operator.value = String.singleton c) ∧
        right.IsLexical := by
  simp only [IsLexical, literals, operators, List.mem_append, List.mem_cons]
  constructor
  · intro h
    rcases h with ⟨hliterals, hoperators⟩
    refine ⟨⟨?_, ?_⟩, hoperators operator (.inr (.inl rfl)), ?_, ?_⟩
    · exact fun value hvalue => hliterals value (.inl hvalue)
    · exact fun o ho => hoperators o (.inl ho)
    · exact fun value hvalue => hliterals value (.inr hvalue)
    · exact fun o ho => hoperators o (.inr (.inr ho))
  · intro h
    rcases h with ⟨hleft, hoperator, hright⟩
    constructor
    · intro value hvalue
      rcases hvalue with hvalue | hvalue
      · exact hleft.1 value hvalue
      · exact hright.1 value hvalue
    · intro o ho
      rcases ho with ho | rfl | ho
      · exact hleft.2 o ho
      · exact hoperator
      · exact hright.2 o ho

/-! ## Where an expression ends -/

/-- The text of an expression determines the expression, and where it ends in a longer text that
goes on with no character of a numeral. -/
theorem IsLexical.render_append_inj {e f : Expr} (he : e.IsLexical) (hf : f.IsLexical)
    {x y : List Char} (hx : Delimits x) (hy : Delimits y)
    (h : e.render.toList ++ x = f.render.toList ++ y) : e = f ∧ x = y := by
  induction e generalizing f x y with
  | literal value =>
    cases f with
    | literal value' =>
      have hvalue : IsNumeral value.toList := he.1 value (by simp [literals])
      have hvalue' : IsNumeral value'.toList := hf.1 value' (by simp [literals])
      simp only [render_literal, String.toList_append, List.append_assoc,
        List.append_cancel_left_eq] at h
      rcases hvalue.append_inj hvalue' hx hy h with ⟨htext, hrest⟩
      exact ⟨congrArg literal (String.toList_injective htext), hrest⟩
    | binary left' operator' right' => simp [render_literal, render_binary] at h
  | binary left operator right ihl ihr =>
    cases f with
    | literal value' => simp [render_literal, render_binary] at h
    | binary left' operator' right' =>
      rcases isLexical_binary_iff.1 he with ⟨hleft, ⟨c, hglyph, htext⟩, hright⟩
      rcases isLexical_binary_iff.1 hf with ⟨hleft', ⟨c', hglyph', htext'⟩, hright'⟩
      simp only [render_binary, String.toList_append, List.append_assoc,
        List.append_cancel_left_eq] at h
      -- What stands after an operand is punctuation, which is in no numeral.
      have hcomma : ∀ rest, Delimits (", operator = ".toList ++ rest) := by
        intro rest
        exact delimits_cons (d := ',') (by decide) _
      have hbracket : ∀ rest, Delimits (" ]".toList ++ rest) := by
        intro rest
        exact delimits_cons (d := ' ') (by decide) _
      rcases ihl hleft hleft' (hcomma _) (hcomma _) h with ⟨hl, hmiddle⟩
      rw [htext, htext', String.toList_singleton, String.toList_singleton,
        List.append_cancel_left_eq, List.singleton_append, List.singleton_append,
        List.cons.injEq, List.append_cancel_left_eq] at hmiddle
      rcases hmiddle with ⟨hc, hend⟩
      rcases ihr hright hright' (hbracket _) (hbracket _) hend with ⟨hr, hrest⟩
      subst hc
      have hoperator : operator = operator' := Token.eq_of_glyph ⟨hglyph, htext⟩ ⟨hglyph', htext'⟩
      rw [hl, hoperator, hr]
      exact ⟨rfl, List.append_cancel_left hrest⟩

end Expr

namespace Statement

/-- The text of a statement determines the statement, and where it ends in a longer text. -/
theorem render_append_inj {s s' : Statement} (hs : s.expr.IsLexical) (hs' : s'.expr.IsLexical)
    {x y : List Char} (hx : Delimits x) (hy : Delimits y)
    (h : s.render.toList ++ x = s'.render.toList ++ y) : s = s' ∧ x = y := by
  unfold render at h
  simp only [String.toList_append, List.append_assoc] at h
  have hexprs := List.append_cancel_left h
  rcases hs.render_append_inj hs' hx hy hexprs with ⟨hexpr, hrest⟩
  exact ⟨congrArg mk hexpr, hrest⟩

/-- The text of statements that follow another one, each on a line of its own. -/
def lines (ss : List Statement) : List Char :=
  ss.flatMap fun s => '\n' :: s.render.toList

/-- A line feed is in no numeral. -/
theorem delimits_lines (ss : List Statement) : Delimits (lines ss) := by
  cases ss with
  | nil => simp [lines, Delimits]
  | cons s ss => exact delimits_cons (by decide) _

/-- The text of statements line by line determines them. -/
theorem lines_inj {ss ss' : List Statement} (hss : ∀ s ∈ ss, s.expr.IsLexical)
    (hss' : ∀ s ∈ ss', s.expr.IsLexical) (h : lines ss = lines ss') : ss = ss' := by
  induction ss generalizing ss' with
  | nil =>
    cases ss' with
    | nil => rfl
    | cons s' ss' => simp [lines] at h
  | cons s ss ih =>
    cases ss' with
    | nil => simp [lines] at h
    | cons s' ss' =>
      have htexts : s.render.toList ++ lines ss = s'.render.toList ++ lines ss' :=
        (List.cons.inj h).2
      rcases List.forall_mem_cons.1 hss with ⟨hs, hrest⟩
      rcases List.forall_mem_cons.1 hss' with ⟨hs', hrest'⟩
      rcases render_append_inj hs hs' (delimits_lines ss) (delimits_lines ss') htexts with
        ⟨hfirst, hlines⟩
      rw [hfirst, ih hrest hrest' hlines]

end Statement

namespace Program

/-- The text of a program is that of its first statement and the lines after it. -/
theorem toList_render_cons (s : Statement) (ss : List Statement) :
    (render ⟨s :: ss⟩).toList = s.render.toList ++ Statement.lines ss := by
  induction ss generalizing s with
  | nil => simp [render, Statement.lines]
  | cons s' ss ih =>
    have hrest : ("\n".intercalate (s'.render :: ss.map Statement.render)).toList =
        s'.render.toList ++ Statement.lines ss := ih s'
    simp [render, Statement.lines, String.intercalate_cons_cons, hrest]

/-- The trees of a program that was read from a source text are such that their tokens can be
spelled. -/
theorem isLexical_of_ofSource {source : String} {p : Program} (h : ofSource source = .ok p) :
    ∀ s ∈ p.statements, s.expr.IsLexical := by
  rw [← String.ofList_toList (s := source)] at h
  rcases spelling_of_ofSource h with ⟨spelling, hspelling, htokens, -, hwf⟩
  rw [isLexical_iff hwf, ← htokens]
  exact hspelling.lexical

/-- A program with a statement has a text. -/
theorem render_cons_ne (s : Statement) (ss : List Statement) : render ⟨s :: ss⟩ ≠ render ⟨[]⟩ := by
  intro h
  have htext := congrArg String.toList h
  rw [toList_render_cons] at htext
  unfold Statement.render at htext
  simp [render] at htext

/-- Programs with one text are one program, if their tokens can be spelled. -/
theorem eq_of_render_eq {p q : Program} (hp : ∀ s ∈ p.statements, s.expr.IsLexical)
    (hq : ∀ s ∈ q.statements, s.expr.IsLexical) (h : p.render = q.render) : p = q := by
  rcases p with ⟨_ | ⟨s, ss⟩⟩ <;> rcases q with ⟨_ | ⟨s', ss'⟩⟩
  · rfl
  · exact absurd h.symm (render_cons_ne s' ss')
  · exact absurd h (render_cons_ne s ss)
  · have htexts := congrArg String.toList h
    rw [toList_render_cons, toList_render_cons] at htexts
    have hlines : Statement.lines (s :: ss) = Statement.lines (s' :: ss') :=
      congrArg ('\n' :: ·) htexts
    exact congrArg mk (Statement.lines_inj hp hq hlines)

/-- Programs have one text exactly when they are one program, statement by statement, tree by
tree and operator by operator, if their literals are numerals and their operators their own
glyphs; the trees may have any shape.  This holds of all programs that are read from source
texts. -/
theorem render_unambiguous :
    (∀ p q : Program, (∀ s ∈ p.statements, s.expr.IsLexical) →
      (∀ s ∈ q.statements, s.expr.IsLexical) → (p.render = q.render ↔ p = q)) ∧
    ∀ (source source' : String) (p q : Program), ofSource source = .ok p →
      ofSource source' = .ok q → (p.render = q.render ↔ p = q) := by
  have htexts : ∀ p q : Program, (∀ s ∈ p.statements, s.expr.IsLexical) →
      (∀ s ∈ q.statements, s.expr.IsLexical) → (p.render = q.render ↔ p = q) := by
    intro p q hp hq
    constructor
    · exact eq_of_render_eq hp hq
    · exact congrArg render
  refine ⟨htexts, ?_⟩
  intro source source' p q hp hq
  exact htexts p q (isLexical_of_ofSource hp) (isLexical_of_ofSource hq)

/-- Trees that lean to different sides have different texts, although they have the same tokens;
and so have one statement and two of them with the same digits. -/
theorem render_leaning :
    render ⟨[⟨.binary (.binary (.literal "1") ⟨.minus, "-"⟩ (.literal "2")) ⟨.minus, "-"⟩
        (.literal "3.5")⟩]⟩ ≠
      render ⟨[⟨.binary (.literal "1") ⟨.minus, "-"⟩
        (.binary (.literal "2") ⟨.minus, "-"⟩ (.literal "3.5"))⟩]⟩ ∧
    render ⟨[⟨.literal "1"⟩, ⟨.literal "2"⟩]⟩ ≠ render ⟨[⟨.literal "12"⟩]⟩ := by
  have hliterals : ∀ value ∈ ["1", "2", "3.5"], IsNumeral value.toList := by
    have hone : IsDigits ['1'] := by simp [IsDigits]
    have htwo : IsDigits ['2'] := by simp [IsDigits]
    have hthree : IsNumeral ['3', '.', '5'] :=
      .inr ⟨['3'], ['5'], by simp [IsDigits], by simp [IsDigits], rfl⟩
    simpa using ⟨.inl hone, .inl htwo, hthree⟩
  have hminus : ∀ o ∈ [(⟨.minus, "-"⟩ : Token), ⟨.minus, "-"⟩],
      ∃ c, o.kind.glyph? = some c ∧ o.value = String.singleton c := by
    simp [Kind.glyph?]
  constructor
  · intro h
    have htrees := (render_unambiguous.1 _ _ (by simpa using ⟨hliterals, hminus⟩)
      (by simpa using ⟨hliterals, hminus⟩)).1 h
    simp at htrees
  · intro h
    have hstatements := (render_unambiguous.2 "1 2" "12" _ _ (by decide +kernel)
      (by decide +kernel)).1 h
    simp at hstatements

end Program

end Arith
