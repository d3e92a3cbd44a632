import Arith.Diagnostic
import Arith.Duration
import Arith.Program

/-!
# Texts on lines

How many line feeds there are in what is shown to a user.  Quoted text, names and times have
none, and the text of an expression has only those of the token texts in it.  So a report has
one, between its headline and what it points at, as long as the text at fault has none.

Main results:

- `Text.lineFeeds`: the number of line feeds of a text.
- `Text.isPlain_quote`: quoted text has no control character in it, whatever it quotes.
- `Fault.isPlain_message`: nor has a message.
- `Duration.lineFeeds_render`: so does a span of time.
- `Expr.lineFeeds_render`: so does an expression with tokens that do.
- `Diagnostic.lineFeeds_report`: a report is two lines.
-/

namespace Arith

namespace Text

/-- The number of line feeds of a text. -/
def lineFeeds (text : String) : Nat :=
  text.toList.count '\n'

@[simp]
theorem lineFeeds_append (a b : String) : lineFeeds (a ++ b) = lineFeeds a + lineFeeds b := by
  simp [lineFeeds, List.count_append]

/-- A text stays on its line if it has no line feed in it. -/
theorem lineFeeds_eq_zero_iff {text : String} : lineFeeds text = 0 ↔ '\n' ∉ text.toList :=
  List.count_eq_zero

/-- Texts that stay on their lines do so when they are joined. -/
theorem lineFeeds_join {texts : List String} (h : ∀ text ∈ texts, lineFeeds text = 0) :
    lineFeeds (String.join texts) = 0 := by
  simp only [lineFeeds_eq_zero_iff] at h ⊢
  simpa [String.toList_join] using h

/-- A text is plain if none of its characters comes before the space, which has the code point 32,
as control characters do. -/
def IsPlain (text : String) : Prop :=
  (text.toList.all fun c => 32 ≤ c.toNat) = true

theorem isPlain_iff {text : String} : IsPlain text ↔ ∀ c ∈ text.toList, 32 ≤ c.toNat := by
  simp [IsPlain]

theorem isPlain_append {a b : String} : IsPlain (a ++ b) ↔ IsPlain a ∧ IsPlain b := by
  simp [IsPlain]

/-- No control character is part of a plain text. -/
theorem IsPlain.not_mem {text : String} (h : IsPlain text) {c : Char} (hc : c.toNat < 32) :
    c ∉ text.toList :=
  fun hmem => Nat.not_lt.2 (isPlain_iff.1 h c hmem) hc

/-- Plain text stays on its line. -/
theorem IsPlain.lineFeeds_eq {text : String} (h : IsPlain text) : lineFeeds text = 0 :=
  lineFeeds_eq_zero_iff.2 (h.not_mem (by decide))

/-- The digits of a number are those of numbers below the base. -/
theorem exists_digitChar_of_mem_toDigits {base n : Nat} (hbase : 1 < base) {c : Char}
    (hc : c ∈ Nat.toDigits base n) : ∃ d, d < base ∧ c = Nat.digitChar d := by
  induction n using Nat.strongRecOn with
  | ind n ih =>
    rw [Nat.toDigits_eq_if hbase] at hc
    split at hc
    · rename_i hsmall
      exact ⟨n, hsmall, List.mem_singleton.1 hc⟩
    · rename_i hlarge
      have hsmaller : n / base < n := Nat.div_lt_self (by omega) hbase
      rcases List.mem_append.1 hc with hc | hc
      · exact ih (n / base) hsmaller hc
      · exact ⟨n % base, Nat.mod_lt n (by omega), List.mem_singleton.1 hc⟩

/-- No digit is a control character, whatever the base. -/
theorem isPlain_of_mem_toDigits {base n : Nat} (hbase : 1 < base) {c : Char}
    (hc : c ∈ Nat.toDigits base n) : 32 ≤ c.toNat := by
  rcases exists_digitChar_of_mem_toDigits hbase hc with ⟨d, -, rfl⟩
  by_cases hd : d < 16
  · have hdigits : ∀ d < 16, 32 ≤ (Nat.digitChar d).toNat := by decide
    exact hdigits d hd
  · rw [Nat.digitChar_eq_star.2 (by omega)]
    decide

/-- A number is written on one line, whatever its base. -/
theorem lineFeed_not_mem_toDigits {base : Nat} (hbase : 1 < base) (n : Nat) :
    '\n' ∉ Nat.toDigits base n :=
  fun hmem => absurd (isPlain_of_mem_toDigits hbase hmem) (by decide)

/-! ## Quoted text -/

/-- A character written by its code point is written without control characters. -/
theorem isPlain_of_mem_codePointEscape {c d : Char} (hd : d ∈ codePointEscape c) :
    32 ≤ d.toNat := by
  simp only [codePointEscape, List.cons_append, List.mem_cons, List.mem_append, List.not_mem_nil,
    or_false] at hd
  rcases hd with rfl | rfl | rfl | hd | rfl
  · decide
  · decide
  · decide
  · exact isPlain_of_mem_toDigits (by decide) hd
  · decide

/-- Control characters cannot be read off the page. -/
theorem isHidden_of_toNat_lt {c : Char} (hc : c.toNat < 32) : isHidden c = true := by
  have hrange : isUnprintable c = true :=
    Ranges.has_iff.2 ⟨(0x0, 0x1f), List.mem_cons_self, Nat.zero_le _, Nat.le_of_lt_succ hc⟩
  simp [isHidden, hrange]

/-- No character is quoted with a control character, not even a control character. -/
theorem isPlain_of_mem_escape {c d : Char} (hd : d ∈ escape c) : 32 ≤ d.toNat := by
  unfold escape at hd
  split at hd
  case h_7 =>
    split at hd
    · exact isPlain_of_mem_codePointEscape hd
    · rename_i hshown
      rw [List.mem_singleton.1 hd]
      exact Nat.not_lt.1 fun hlt => hshown (isHidden_of_toNat_lt hlt)
  all_goals
    simp only [List.mem_cons, List.not_mem_nil, or_false] at hd
    rcases hd with rfl | rfl <;> decide

/-- Quoted text is plain, whatever it quotes. -/
theorem isPlain_quote (text : String) : IsPlain (quote text) := by
  unfold quote
  rw [isPlain_append, isPlain_append]
  refine ⟨⟨rfl, ?_⟩, rfl⟩
  rw [isPlain_iff, String.toList_ofList]
  intro d hd
  rcases List.mem_flatMap.1 hd with ⟨c, -, hd⟩
  exact isPlain_of_mem_escape hd

end Text

open Text

/-! ## Times -/

namespace Duration

/-- The decimals of a span of time stay on their line. -/
theorem lineFeeds_decimals (part places : Nat) : lineFeeds (decimals part places) = 0 := by
  unfold decimals
  split
  · rfl
  · rw [lineFeeds_append, Nat.add_eq_zero_iff]
    refine ⟨rfl, ?_⟩
    rw [lineFeeds_eq_zero_iff, String.toList_ofList]
    intro hmem
    have hpadded := List.mem_reverse.1
      ((List.dropWhile_sublist _).subset (List.mem_reverse.1 hmem))
    have hdigits := lineFeed_not_mem_toDigits (by decide : 1 < 10) part
    simp [hdigits] at hpadded

/-- A span of time stays on its line. -/
theorem lineFeeds_render (nanos : Nat) : lineFeeds (render nanos) = 0 := by
  have hwhole : ∀ n : Nat, lineFeeds n.repr = 0 := by
    intro n
    rw [lineFeeds_eq_zero_iff, Nat.repr, String.toList_ofList]
    exact lineFeed_not_mem_toDigits (by decide) n
  have hunits : ∀ unit ∈ ["s", "ms", "µs", "ns"], lineFeeds unit = 0 := by decide
  simp only [List.forall_mem_cons, List.not_mem_nil] at hunits
  unfold render
  repeat' split
  all_goals simp [hwhole, lineFeeds_decimals, hunits]

end Duration

/-! ## Expressions and reports -/

/-- An expression whose tokens stay on their line does so itself. -/
theorem Expr.lineFeeds_render {e : Expr} (h : ∀ t ∈ e.tokens, lineFeeds t.value = 0) :
    lineFeeds e.render = 0 := by
  rw [render, write_eq_pieces]
  apply lineFeeds_join
  induction e with
  | literal value =>
    have hvalue : lineFeeds value = 0 := h (.number value) (by simp [tokens])
    have hlabel : lineFeeds "Literal: " = 0 := rfl
    simp [Layout.pieces, textLayout, hlabel, hvalue]
  | binary left operator right ihl ihr =>
    have hleft := ihl fun t ht => h t (by simp [tokens, ht])
    have hright := ihr fun t ht => h t (by simp [tokens, ht])
    have hoperator : lineFeeds operator.value = 0 := h operator (by simp [tokens])
    intro piece hpiece
    simp only [Layout.pieces, textLayout, List.mem_append, List.mem_cons, List.not_mem_nil,
      or_false] at hpiece
    rcases hpiece with (((rfl | hpiece) | rfl | rfl | rfl) | hpiece) | rfl
    · rfl
    · exact hleft piece hpiece
    · rfl
    · exact hoperator
    · rfl
    · exact hright piece hpiece
    · rfl

/-- The name of a kind is plain. -/
theorem Kind.isPlain_name (k : Kind) : IsPlain k.name := by
  cases k <;> rfl

/-- The name of a kind stays on its line. -/
theorem Kind.lineFeeds_name (k : Kind) : lineFeeds k.name = 0 :=
  k.isPlain_name.lineFeeds_eq

/-- A token stays on its line if its text does. -/
theorem Token.lineFeeds_render {t : Token} (h : lineFeeds t.value = 0) :
    lineFeeds t.render = 0 := by
  unfold render
  simp only [lineFeeds_append, Kind.lineFeeds_name, h]
  simp [lineFeeds_eq_zero_iff]

namespace Fault

/-- The name of a cause stays on its line. -/
theorem lineFeeds_name (fault : Fault) : lineFeeds fault.name = 0 := by
  unfold name
  split <;> simp [lineFeeds_eq_zero_iff]

/-- The message of a cause is plain, whatever the text at fault is. -/
theorem isPlain_message (fault : Fault) : IsPlain fault.message := by
  unfold message
  split
  case h_1 text =>
    rw [isPlain_append]
    exact ⟨rfl, isPlain_quote text⟩
  case h_4 => rfl
  all_goals
    rename_i text kind
    simp only [isPlain_append]
    exact ⟨⟨⟨⟨rfl, isPlain_quote text⟩, rfl⟩, kind.isPlain_name⟩, rfl⟩

/-- The message of a cause stays on its line, whatever the text at fault is. -/
theorem lineFeeds_message (fault : Fault) : lineFeeds fault.message = 0 :=
  fault.isPlain_message.lineFeeds_eq

/-- The tip of a cause stays on its line if the text at fault does. -/
theorem lineFeeds_tip {fault : Fault}
    (h : ∀ text kind, fault = .unknownOperand text kind ∨ fault = .illegalExpression text kind →
      lineFeeds text = 0) :
    ∀ tip ∈ fault.tip?, lineFeeds tip = 0 := by
  intro tip htip
  unfold tip? at htip
  split at htip
  · cases htip
  · rename_i text kind
    cases htip
    simp only [lineFeeds_append, h text kind (.inl rfl)]
    simp [lineFeeds_eq_zero_iff]
  · cases htip
    simp [lineFeeds_eq_zero_iff]
  · rename_i text kind _
    cases htip
    simp only [lineFeeds_append, h text kind (.inr rfl)]
    simp [lineFeeds_eq_zero_iff]
  · cases htip
    simp [lineFeeds_eq_zero_iff]

end Fault

namespace Diagnostic

/-- The headline of a report is one line if the tip is. -/
theorem lineFeeds_headline {g : Diagnostic} (h : ∀ tip ∈ g.fault.tip?, lineFeeds tip = 0) :
    lineFeeds g.headline = 0 := by
  unfold headline
  split
  · simp only [lineFeeds_append, Fault.lineFeeds_name]
    simp [lineFeeds_eq_zero_iff]
  · rename_i tip htip
    simp only [lineFeeds_append, Fault.lineFeeds_name, h tip htip]
    simp [lineFeeds_eq_zero_iff]

/-- What a report points at is one line if the token is. -/
theorem lineFeeds_subject {g : Diagnostic} (h : ∀ t ∈ g.token, lineFeeds t.value = 0) :
    lineFeeds g.subject = 0 := by
  unfold subject
  split
  · rename_i t ht
    exact Token.lineFeeds_render (h t ht)
  · exact Fault.lineFeeds_message g.fault

/-- A report is two lines if its tip and its token are one each. -/
theorem lineFeeds_report {g : Diagnostic} (htip : ∀ tip ∈ g.fault.tip?, lineFeeds tip = 0)
    (htoken : ∀ t ∈ g.token, lineFeeds t.value = 0) : lineFeeds g.report = 1 := by
  simp only [report, lineFeeds_append, lineFeeds_headline htip, lineFeeds_subject htoken]
  simp [lineFeeds]

end Diagnostic

end Arith
