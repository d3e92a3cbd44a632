import Arith.Numeral

/-!
# Longest numerals

The numeral at the front of a text is a numeral, and it is as long as it can be:
the text after it goes on with no digit, and a numeral is read back whole from any
text that cannot extend it.

Main results:

- `after`: the text after the leading numeral.
- `isNumeral_leading`: a text that starts with a digit starts with a numeral.
- `noDigitHead_after`, `point_or_fraction_after`: the leading numeral takes every digit and
  every fraction it can.
- `leading_append_eq`: a numeral is the leading one of any text that does not
  extend it.
-/

namespace Arith.Numeral

/-- The text after the numeral at the front of a text. -/
def after (cs : List Char) : List Char :=
  (cs.dropWhile Char.isDigit).drop (fraction (cs.dropWhile Char.isDigit)).length

/-- Whether a text does not start with a digit. -/
def NoDigitHead (cs : List Char) : Prop :=
  ∀ d ∈ cs.head?, d.isDigit = false

/-! ## Runs of digits -/

/-- What is left when the digits at the front are dropped starts with no digit. -/
theorem noDigitHead_dropWhile (cs : List Char) : NoDigitHead (cs.dropWhile Char.isDigit) := by
  intro d hd
  have hstop := List.head?_dropWhile_not Char.isDigit cs
  rw [Option.mem_def.1 hd] at hstop
  simpa using hstop

/-- All characters of a leading run of digits are digits. -/
theorem isDigit_of_mem_takeWhile {cs : List Char} {d : Char}
    (hd : d ∈ cs.takeWhile Char.isDigit) : d.isDigit = true := by
  have hall : (cs.takeWhile Char.isDigit).all Char.isDigit = true := List.all_takeWhile
  exact List.all_eq_true.1 hall d hd

/-- A numeral starts with a digit. -/
theorem IsNumeral.exists_cons {n : List Char} (hn : IsNumeral n) :
    ∃ c cs, n = c :: cs ∧ c.isDigit = true := by
  have hdigits : ∀ ds, IsDigits ds → ∃ c cs, ds = c :: cs ∧ c.isDigit = true := by
    intro ds hds
    cases ds with
    | nil => exact absurd rfl hds.1
    | cons c cs => exact ⟨c, cs, rfl, hds.2 c List.mem_cons_self⟩
  rcases hn with hn | ⟨whole, part, hwhole, -, rfl⟩
  · exact hdigits n hn
  · rcases hdigits whole hwhole with ⟨c, cs, hcons, hc⟩
    subst hcons
    exact ⟨c, cs ++ '.' :: part, rfl, hc⟩

/-- A numeral is made of digits and points. -/
theorem IsNumeral.isDigit_or_point {n : List Char} (hn : IsNumeral n) :
    ∀ c ∈ n, c.isDigit = true ∨ c = '.' := by
  intro c hc
  rcases hn with hdigits | ⟨whole, part, hwhole, hpart, rfl⟩
  · left
    exact hdigits.2 c hc
  · rcases List.mem_append.1 hc with hc | hc
    · left
      exact hwhole.2 c hc
    · rcases List.mem_cons.1 hc with hpoint | hc
      · right
        exact hpoint
      · left
        exact hpart.2 c hc

/-- A run of digits is taken whole from a text that goes on with no digit. -/
theorem takeWhile_digits_append {ds rest : List Char} (hds : ∀ d ∈ ds, d.isDigit = true)
    (hrest : NoDigitHead rest) : (ds ++ rest).takeWhile Char.isDigit = ds := by
  rw [List.takeWhile_append_of_pos hds]
  cases rest with
  | nil => simp
  | cons d rest => simp [hrest d rfl]

/-- A run of digits is dropped whole from a text that goes on with no digit. -/
theorem dropWhile_digits_append {ds rest : List Char} (hds : ∀ d ∈ ds, d.isDigit = true)
    (hrest : NoDigitHead rest) : (ds ++ rest).dropWhile Char.isDigit = rest := by
  rw [List.dropWhile_append_of_pos hds]
  cases rest with
  | nil => rfl
  | cons d rest => simp [hrest d rfl]

/-- No digit is a point. -/
theorem isDigit_point : Char.isDigit '.' = false := by
  decide

/-! ## Fractions -/

/-- A fraction is empty, or it is a point and all the digits after it. -/
theorem fraction_cases (cs : List Char) :
    fraction cs = [] ∨
      ∃ rest, cs = '.' :: rest ∧ rest.takeWhile Char.isDigit ≠ [] ∧
        fraction cs = '.' :: rest.takeWhile Char.isDigit := by
  unfold fraction
  split
  · rename_i rest
    split
    · left
      rfl
    · rename_i d ds hdigits
      right
      have hne : rest.takeWhile Char.isDigit ≠ [] := by
        simp [hdigits]
      refine ⟨rest, rfl, hne, ?_⟩
      rw [hdigits]
  · left
    rfl

/-- Only a point starts a fraction. -/
theorem fraction_eq_nil {cs : List Char} (h : ∀ d ∈ cs.head?, d ≠ '.') :
    fraction cs = [] := by
  rcases fraction_cases cs with hnil | ⟨rest, rfl, -, -⟩
  · exact hnil
  · exact absurd rfl (h '.' rfl)

/-- A text starts with a fraction exactly when it starts with a point and a digit. -/
theorem fraction_cons_eq_nil_iff {c : Char} {cs : List Char} :
    fraction (c :: cs) = [] ↔ ¬ (c = '.' ∧ ∃ d ∈ cs.head?, d.isDigit = true) := by
  constructor
  · intro hnil h
    rcases h with ⟨rfl, d, hd, hdigit⟩
    cases cs with
    | nil => simp at hd
    | cons x cs =>
      have hxd : x = d := by simpa using hd
      subst hxd
      simp [fraction, hdigit] at hnil
  · intro h
    rcases fraction_cases (c :: cs) with hnil | ⟨rest, hcs, hne, -⟩
    · exact hnil
    · rcases List.cons.inj hcs with ⟨rfl, rfl⟩
      cases cs with
      | nil => simp at hne
      | cons x cs =>
        by_cases hx : x.isDigit = true
        · exact absurd ⟨rfl, x, rfl, hx⟩ h
        · simp [hx] at hne

/-- A point and a run of digits is the fraction of any text that goes on with no
digit. -/
theorem fraction_append_eq {part rest : List Char} (hpart : IsDigits part)
    (hrest : NoDigitHead rest) : fraction ('.' :: part ++ rest) = '.' :: part := by
  have htake := takeWhile_digits_append hpart.2 hrest
  simp only [List.cons_append, fraction, htake]
  cases part with
  | nil => exact absurd rfl hpart.1
  | cons d ds => rfl

/-! ## Leading numerals -/

/-- A text is its leading numeral and what comes after it. -/
theorem leading_append (cs : List Char) : leading cs ++ after cs = cs :=
  leading_append_after cs

/-- A text that starts with a digit starts with a numeral. -/
theorem isNumeral_leading {c : Char} (hc : c.isDigit = true) (cs : List Char) :
    IsNumeral (leading (c :: cs)) := by
  have hwhole : IsDigits ((c :: cs).takeWhile Char.isDigit) := by
    constructor
    · simp [hc]
    · intro d hd
      exact isDigit_of_mem_takeWhile hd
  unfold leading
  rcases fraction_cases ((c :: cs).dropWhile Char.isDigit) with hnil | ⟨rest, -, hne, hpart⟩
  · left
    rw [hnil, List.append_nil]
    exact hwhole
  · right
    have hfraction : IsDigits (rest.takeWhile Char.isDigit) := by
      refine ⟨hne, ?_⟩
      intro d hd
      exact isDigit_of_mem_takeWhile hd
    refine ⟨_, _, hwhole, hfraction, ?_⟩
    rw [hpart]

/-- The leading numeral takes every digit it can: what comes after it starts with
none. -/
theorem noDigitHead_after (cs : List Char) : NoDigitHead (after cs) := by
  unfold after
  rcases fraction_cases (cs.dropWhile Char.isDigit) with hnil | ⟨rest, hrest, -, hpart⟩
  · rw [hnil]
    exact noDigitHead_dropWhile cs
  · have hsplit : rest.takeWhile Char.isDigit ++ rest.dropWhile Char.isDigit = rest :=
      List.takeWhile_append_dropWhile
    have hdrop : rest.drop (rest.takeWhile Char.isDigit).length = rest.dropWhile Char.isDigit := by
      have hleft : (rest.takeWhile Char.isDigit ++ rest.dropWhile Char.isDigit).drop
          (rest.takeWhile Char.isDigit).length = rest.dropWhile Char.isDigit :=
        List.drop_left
      rwa [hsplit] at hleft
    rw [hpart, hrest, List.length_cons, List.drop_succ_cons, hdrop]
    exact noDigitHead_dropWhile rest

/-- The leading numeral takes a fraction if it can: one that has none is not followed by
one. -/
theorem point_or_fraction_after (cs : List Char) :
    '.' ∈ leading cs ∨ fraction (after cs) = [] := by
  unfold leading after
  rcases fraction_cases (cs.dropWhile Char.isDigit) with hnil | ⟨rest, -, -, hpart⟩
  · right
    rw [hnil]
    exact hnil
  · left
    rw [hpart]
    simp

/-- A numeral is the leading one of any text that does not extend it, be it by a
digit or, where it has no fraction yet, by one. -/
theorem leading_append_eq {n rest : List Char} (hn : IsNumeral n) (hrest : NoDigitHead rest)
    (hpoint : '.' ∈ n ∨ fraction rest = []) : leading (n ++ rest) = n := by
  unfold leading
  rcases hn with hdigits | ⟨whole, part, hwhole, hpart, rfl⟩
  · have hfraction : fraction rest = [] := by
      rcases hpoint with hmem | hnil
      · have hdigit := hdigits.2 '.' hmem
        rw [isDigit_point] at hdigit
        contradiction
      · exact hnil
    rw [takeWhile_digits_append hdigits.2 hrest, dropWhile_digits_append hdigits.2 hrest,
      hfraction, List.append_nil]
  · have hstop : NoDigitHead ('.' :: part ++ rest) := by
      intro d hd
      have hd' : '.' = d := by simpa using hd
      subst hd'
      exact isDigit_point
    rw [List.append_assoc, takeWhile_digits_append hwhole.2 hstop,
      dropWhile_digits_append hwhole.2 hstop, fraction_append_eq hpart hrest]

/-- After a numeral comes the text that does not extend it. -/
theorem after_append_eq {n rest : List Char} (hn : IsNumeral n) (hrest : NoDigitHead rest)
    (hpoint : '.' ∈ n ∨ fraction rest = []) : after (n ++ rest) = rest := by
  have hsplit := leading_append (n ++ rest)
  rw [leading_append_eq hn hrest hpoint] at hsplit
  exact List.append_cancel_left hsplit

end Arith.Numeral
