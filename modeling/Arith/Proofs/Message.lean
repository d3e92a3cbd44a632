import Arith.Proofs.Line

/-!
# Messages identify their causes

A message quotes the text at fault, which may have anything in it: quotes, backslashes, what looks
like an escape, or the rest of another message.  Still it leaves no choice of what the cause is.
What stands for a character in quoted text determines that character and where the next one
starts, and nothing that stands for a character starts with the quote that closes the text.

Main results:

- `Text.toDigits_inj`: a number is determined by its hexadecimal digits.
- `Text.escape_cases`: the three ways in which a character is quoted.
- `Text.escape_append_inj`: what stands for a character determines it, and where it ends.
- `Text.quote_append_inj`: so does quoted text in a longer one.
- `Fault.message_identifies`: causes with one message are one cause, and the message is one line.
-/

namespace Arith

namespace Text

/-! ## Code points -/

/-- A number is determined by its hexadecimal digits. -/
theorem toDigits_inj {m n : Nat} (h : Nat.toDigits 16 m = Nat.toDigits 16 n) : m = n := by
  have hdigit : ∀ a < 16, ∀ b < 16, Nat.digitChar a = Nat.digitChar b → a = b := by decide
  induction m using Nat.strongRecOn generalizing n with
  | ind m ih =>
    rw [Nat.toDigits_eq_if (by decide), Nat.toDigits_eq_if (n := n) (by decide)] at h
    by_cases hm : m < 16 <;> by_cases hn : n < 16
    · rw [if_pos hm, if_pos hn] at h
      exact hdigit m hm n hn (List.singleton_inj.1 h)
    · -- A second number with more digits differs in how many there are.
      rw [if_pos hm, if_neg hn] at h
      have hlength := congrArg List.length h
      simp [Nat.toDigits_ne_nil] at hlength
    · rw [if_neg hm, if_pos hn] at h
      have hlength := congrArg List.length h
      simp [Nat.toDigits_ne_nil] at hlength
    · rw [if_neg hm, if_neg hn] at h
      rcases List.append_inj' h rfl with ⟨hfront, hlast⟩
      have hquotient : m / 16 = n / 16 := ih (m / 16) (by omega) hfront
      have hremainder : m % 16 = n % 16 :=
        hdigit _ (Nat.mod_lt _ (by decide)) _ (Nat.mod_lt _ (by decide))
          (List.singleton_inj.1 hlast)
      omega

/-- Two texts that go on with a character they do not hold are cut apart there. -/
theorem append_cons_inj {a : Char} {l m x y : List Char} (hl : a ∉ l) (hm : a ∉ m)
    (h : l ++ a :: x = m ++ a :: y) : l = m ∧ x = y := by
  induction l generalizing m with
  | nil =>
    cases m with
    | nil => exact ⟨rfl, (List.cons.inj h).2⟩
    | cons b m => exact absurd (List.mem_cons.2 (.inl (List.cons.inj h).1)) hm
  | cons b l ih =>
    cases m with
    | nil => exact absurd (List.mem_cons.2 (.inl (List.cons.inj h).1.symm)) hl
    | cons b' m =>
      simp only [List.mem_cons, not_or] at hl hm
      rcases List.cons.inj h with ⟨hb, hrest⟩
      rcases ih hl.2 hm.2 hrest with ⟨hfront, hx⟩
      exact ⟨by rw [hb, hfront], hx⟩

/-- A character written by its code point is determined, and so is where it ends. -/
theorem codePointEscape_append_inj {c d : Char} {x y : List Char}
    (h : codePointEscape c ++ x = codePointEscape d ++ y) : c = d ∧ x = y := by
  have hbrace : ∀ n, '\x7d' ∉ Nat.toDigits 16 n := by
    intro n hmem
    rcases exists_digitChar_of_mem_toDigits (by decide) hmem with ⟨k, hk, heq⟩
    have hdigits : ∀ k < 16, '\x7d' ≠ Nat.digitChar k := by decide
    exact hdigits k hk heq
  simp only [codePointEscape, List.cons_append, List.append_assoc, List.nil_append,
    List.cons.injEq, true_and] at h
  rcases append_cons_inj (hbrace _) (hbrace _) h with ⟨hdigits, hrest⟩
  exact ⟨Char.toNat_inj.1 (toDigits_inj hdigits), hrest⟩

/-! ## Escapes -/

/-- The characters that are quoted with a letter, each with its letter. -/
def letters : List (Char × Char) :=
  [('"', '"'), ('\\', '\\'), ('\n', 'n'), ('\r', 'r'), ('\t', 't'), ('\x00', '0')]

/-- A character is quoted by a backslash and its letter, by its code point, or as it is, and in the
last case it is neither a backslash nor a quote. -/
theorem escape_cases (c : Char) :
    (∃ letter, (c, letter) ∈ letters ∧ escape c = ['\\', letter]) ∨
      escape c = codePointEscape c ∨ escape c = [c] ∧ c ≠ '\\' ∧ c ≠ '"' := by
  unfold escape
  split
  case h_7 hquote hbackslash _ _ _ _ =>
    right
    by_cases hhidden : isHidden c = true
    · exact .inl (if_pos hhidden)
    · exact .inr ⟨if_neg hhidden, hbackslash, hquote⟩
  all_goals exact .inl ⟨_, by decide, rfl⟩

/-- What stands for a character determines it, and where it ends in a longer text. -/
theorem escape_append_inj {c d : Char} {x y : List Char} (h : escape c ++ x = escape d ++ y) :
    c = d ∧ x = y := by
  have hletters : ∀ p ∈ letters, ∀ q ∈ letters, p.2 = q.2 → p.1 = q.1 := by decide
  have hcode : ∀ p ∈ letters, p.2 ≠ 'u' := by decide
  -- The first two characters tell which of the three ways it is.
  rcases escape_cases c with ⟨letter, hc, hec⟩ | hec | ⟨hec, hslash, -⟩
  · rcases escape_cases d with ⟨letter', hd, hed⟩ | hed | ⟨hed, hslash', -⟩
    · simp only [hec, hed, List.cons_append, List.nil_append, List.cons.injEq, true_and] at h
      exact ⟨hletters _ hc _ hd h.1, h.2⟩
    · simp only [hec, hed, codePointEscape, List.cons_append, List.cons.injEq, true_and] at h
      exact absurd h.1 (hcode _ hc)
    · simp only [hec, hed, List.cons_append, List.cons.injEq] at h
      exact absurd h.1.symm hslash'
  · rcases escape_cases d with ⟨letter', hd, hed⟩ | hed | ⟨hed, hslash', -⟩
    · simp only [hec, hed, codePointEscape, List.cons_append, List.cons.injEq, true_and] at h
      exact absurd h.1.symm (hcode _ hd)
    · rw [hec, hed] at h
      exact codePointEscape_append_inj h
    · simp only [hec, hed, codePointEscape, List.cons_append, List.cons.injEq] at h
      exact absurd h.1.symm hslash'
  · rcases escape_cases d with ⟨letter', hd, hed⟩ | hed | ⟨hed, hslash', -⟩
    · simp only [hec, hed, List.cons_append, List.cons.injEq] at h
      exact absurd h.1 hslash
    · simp only [hec, hed, codePointEscape, List.cons_append, List.cons.injEq] at h
      exact absurd h.1 hslash
    · simp only [hec, hed, List.cons_append, List.nil_append, List.cons.injEq] at h
      exact h

/-- Nothing that stands for a character starts with a quote. -/
theorem escape_append_ne (c : Char) (x y : List Char) : escape c ++ x ≠ '"' :: y := by
  intro h
  rcases escape_cases c with ⟨letter, -, hec⟩ | hec | ⟨hec, -, hquote⟩
  · simp [hec] at h
  · simp [hec, codePointEscape] at h
  · simp only [hec, List.cons_append, List.cons.injEq] at h
    exact hquote h.1

/-! ## Quoted text -/

/-- The characters of a quoted text are determined, and so is the quote that closes it. -/
theorem flatMap_escape_append_inj {s t x y : List Char}
    (h : s.flatMap escape ++ '"' :: x = t.flatMap escape ++ '"' :: y) : s = t ∧ x = y := by
  -- Where one text is closed, the other one cannot go on.
  induction s generalizing t with
  | nil =>
    cases t with
    | nil => exact ⟨rfl, (List.cons.inj h).2⟩
    | cons d t =>
      rw [List.flatMap_cons, List.append_assoc] at h
      exact absurd h.symm (escape_append_ne d _ _)
  | cons c s ih =>
    cases t with
    | nil =>
      rw [List.flatMap_cons, List.append_assoc] at h
      exact absurd h (escape_append_ne c _ _)
    | cons d t =>
      simp only [List.flatMap_cons, List.append_assoc] at h
      rcases escape_append_inj h with ⟨hcd, hrest⟩
      rcases ih hrest with ⟨hst, hxy⟩
      exact ⟨by rw [hcd, hst], hxy⟩

/-- Quoted text determines the text, and where it ends in a longer one. -/
theorem quote_append_inj {a b : String} {x y : List Char}
    (h : (quote a).toList ++ x = (quote b).toList ++ y) : a = b ∧ x = y := by
  simp only [quote, String.toList_append, String.toList_ofList, List.append_assoc,
    List.append_cancel_left_eq] at h
  rcases flatMap_escape_append_inj h with ⟨htext, hrest⟩
  exact ⟨String.toList_injective htext, hrest⟩

end Text

open Text

namespace Fault

/-! ## Messages -/

/-- What stands at the end of a message, the quoted text and the kind, determines both. -/
theorem quote_kind_inj {a b : String} {k l : Kind}
    (h : (quote a).toList ++ (" (".toList ++ (k.name.toList ++ ")".toList)) =
      (quote b).toList ++ (" (".toList ++ (l.name.toList ++ ")".toList))) : a = b ∧ k = l := by
  rcases quote_append_inj h with ⟨htext, hkind⟩
  have hname : k.name.toList = l.name.toList :=
    List.append_cancel_right (List.append_cancel_left hkind)
  exact ⟨htext, Kind.name_inj.1 (String.toList_injective hname)⟩

/-- Causes with one message are one cause. -/
theorem message_inj {f g : Fault} (h : f.message = g.message) : f = g := by
  -- Messages of different causes differ in their first words.
  have hlist := congrArg String.toList h
  unfold message at hlist
  cases f with
  | unrecognisedToken text =>
    cases g with
    | unrecognisedToken text' =>
      simp only [String.toList_append, List.append_cancel_left_eq] at hlist
      have hquote : (quote text).toList ++ [] = (quote text').toList ++ [] := by rw [hlist]
      rw [(quote_append_inj hquote).1]
    | _ => simp at hlist
  | unknownOperand text kind =>
    cases g with
    | unknownOperand text' kind' =>
      simp only [String.toList_append, List.append_assoc, List.append_cancel_left_eq] at hlist
      rcases quote_kind_inj hlist with ⟨rfl, rfl⟩
      rfl
    | _ => simp at hlist
  | illegalExpression text kind =>
    cases g with
    | illegalExpression text' kind' =>
      simp only [String.toList_append, List.append_assoc, List.append_cancel_left_eq] at hlist
      rcases quote_kind_inj hlist with ⟨rfl, rfl⟩
      rfl
    | _ => simp at hlist
  | missingEof =>
    cases g with
    | missingEof => rfl
    | _ => simp at hlist

/-- A message identifies its cause: causes with one message have the same text and the same kind
and are of one sort.  It is one line, whatever the text at fault is. -/
theorem message_identifies (f g : Fault) :
    (f.message = g.message ↔ f = g) ∧ '\n' ∉ f.message.toList ∧ '\r' ∉ f.message.toList := by
  have hplain := f.isPlain_message
  refine ⟨⟨message_inj, ?_⟩, hplain.not_mem (by decide), hplain.not_mem (by decide)⟩
  intro h
  rw [h]

end Fault

end Arith
