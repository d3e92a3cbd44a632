import Arith.Cursor

/-!
# Passages of a cursor

A passage is a run of moves from one cursor to another, named by the tokens that it
passes.  It is the one way in which a reading gets from the cursor it starts at to
the cursor it leaves.

Main results:

- `Cursor.Passes`: the cursor gets past some tokens to another place.
- `Cursor.passes_append_iff`: passages are joined and cut at any place.
- `Cursor.Passes.input_eq`: the tokens passed stand right before what is left.
- `Cursor.Passes.tokens_eq`, `Cursor.Passes.position_eq`: a passage keeps the sequence
  and goes as many tokens on as it passes.
- `Cursor.exists_passes`: every run of tokens without an end token can be passed.
- `body`, `endIndex`: the tokens before the first end token, all that any passage can
  pass, and the index that it reaches at most.
- `Cursor.ofTokens_eq_ok_iff`: the cursor that a sequence starts with.
-/

namespace Arith

namespace Cursor

/-- The tokens from the current one on. -/
def input (c : Cursor) : List Token :=
  c.current :: c.ahead

/-- A cursor gets past some tokens to another place, one move after the other. -/
inductive Passes : Cursor → List Token → Cursor → Prop
  | refl (c : Cursor) : Passes c [] c
  | step {c n d : Cursor} {us : List Token} (hnext : c.next? = some n) (hrest : Passes n us d) :
      Passes c (c.current :: us) d

/-! ## Joining and cutting passages -/

/-- A single move is a passage. -/
theorem passes_of_next? {c d : Cursor} (hnext : c.next? = some d) : c.Passes [c.current] d :=
  .step hnext (.refl d)

/-- A passage of nothing stays in its place. -/
theorem passes_nil_iff {c d : Cursor} : c.Passes [] d ↔ c = d := by
  constructor
  · intro h
    cases h
    rfl
  · intro h
    subst h
    exact .refl c

/-- A passage starts with a move past the current token. -/
theorem passes_cons_iff {c d : Cursor} {t : Token} {us : List Token} :
    c.Passes (t :: us) d ↔ c.current = t ∧ ∃ n, c.next? = some n ∧ n.Passes us d := by
  constructor
  · intro h
    cases h with
    | step hnext hrest => exact ⟨rfl, _, hnext, hrest⟩
  · intro h
    rcases h with ⟨hcurrent, n, hnext, hrest⟩
    subst hcurrent
    exact .step hnext hrest

/-- Passages are joined and cut at any place. -/
theorem passes_append_iff {c e : Cursor} {us vs : List Token} :
    c.Passes (us ++ vs) e ↔ ∃ d, c.Passes us d ∧ d.Passes vs e := by
  induction us generalizing c with
  | nil => simp [passes_nil_iff]
  | cons t us ih =>
    simp only [List.cons_append, passes_cons_iff, ih]
    constructor
    · intro h
      rcases h with ⟨ht, n, hnext, d, hleft, hright⟩
      exact ⟨d, ⟨ht, n, hnext, hleft⟩, hright⟩
    · intro h
      rcases h with ⟨d, ⟨ht, n, hnext, hleft⟩, hright⟩
      exact ⟨ht, n, hnext, d, hleft, hright⟩

/-- Two passages in a row make one. -/
theorem Passes.trans {c d e : Cursor} {us vs : List Token} (hleft : c.Passes us d)
    (hright : d.Passes vs e) : c.Passes (us ++ vs) e :=
  passes_append_iff.2 ⟨d, hleft, hright⟩

/-! ## What a passage passes -/

/-- The tokens passed stand right before what is left. -/
theorem Passes.input_eq {c d : Cursor} {us : List Token} (h : c.Passes us d) :
    c.input = us ++ d.input := by
  induction h with
  | refl c => rfl
  | step hnext _ ih =>
    rcases next?_eq_some_iff.1 hnext with ⟨-, -, hahead⟩
    rw [input, hahead, List.cons_append, ← ih]
    rfl

/-- No passage passes an end token. -/
theorem Passes.kind_ne_eof {c d : Cursor} {us : List Token} (h : c.Passes us d) :
    ∀ t ∈ us, t.kind ≠ .eof := by
  induction h with
  | refl c => simp
  | step hnext _ ih =>
    intro t ht
    rcases List.mem_cons.1 ht with rfl | ht
    · simpa [atEnd] using (next?_eq_some_iff.1 hnext).1
    · exact ih t ht

/-- The tokens passed come to stand right behind the cursor. -/
theorem Passes.behind_eq {c d : Cursor} {us : List Token} (h : c.Passes us d) :
    d.behind = us.reverse ++ c.behind := by
  induction h with
  | refl c => rfl
  | step hnext _ ih =>
    rcases next?_eq_some_iff.1 hnext with ⟨-, hbehind, -⟩
    rw [ih, hbehind]
    simp

/-- A passage keeps the sequence. -/
theorem Passes.tokens_eq {c d : Cursor} {us : List Token} (h : c.Passes us d) :
    d.tokens = c.tokens := by
  induction h with
  | refl c => rfl
  | step hnext _ ih => rw [ih, next?_tokens hnext]

/-- A passage goes as many tokens on as it passes. -/
theorem Passes.position_eq {c d : Cursor} {us : List Token} (h : c.Passes us d) :
    d.position = c.position + us.length := by
  simp [position, h.behind_eq, Nat.add_comm]

/-- The last token passed is the one just passed. -/
theorem Passes.previous_eq {c d : Cursor} {us : List Token} {t : Token} (h : c.Passes us d)
    (ht : us.getLast? = some t) : d.previous = t := by
  rcases List.getLast?_eq_some_iff.1 ht with ⟨vs, rfl⟩
  simp [previous, h.behind_eq]

/-- By index, the tokens passed stand from where a passage starts to where it ends. -/
theorem Passes.extract_eq {c d : Cursor} {us : List Token} (h : c.Passes us d) :
    c.tokens.extract c.position d.position = us := by
  have htokens : c.tokens = c.behind.reverse ++ (us ++ d.input) := by
    rw [← h.input_eq]
    rfl
  rw [List.extract_eq_take_drop, h.position_eq, Nat.add_sub_cancel_left, htokens, position]
  simp

/-- Passages past the same tokens to the same token start at the same token. -/
theorem Passes.current_eq {c d c' d' : Cursor} {us : List Token} (h : c.Passes us d)
    (h' : c'.Passes us d') (hcurrent : d'.current = d.current) : c'.current = c.current := by
  cases us with
  | nil => rwa [passes_nil_iff.1 h, passes_nil_iff.1 h']
  | cons t us => rw [(passes_cons_iff.1 h).1, (passes_cons_iff.1 h').1]

/-- Every run of tokens without an end token can be passed. -/
theorem exists_passes {c : Cursor} {us rest : List Token} {t : Token}
    (hinput : c.input = us ++ t :: rest) (hus : ∀ u ∈ us, u.kind ≠ .eof) :
    ∃ d, c.Passes us d ∧ d.input = t :: rest := by
  induction us generalizing c with
  | nil => exact ⟨c, .refl c, hinput⟩
  | cons u us ih =>
    have hcurrent : c.current = u := (List.cons.inj hinput).1
    have hahead : c.ahead = us ++ t :: rest := (List.cons.inj hinput).2
    have hopen : c.atEnd = false := by
      simpa [atEnd, hcurrent] using hus u List.mem_cons_self
    cases hnext : c.next? with
    | none => simp [next?_eq_none_iff.1 hnext] at hopen
    | some n =>
      have hinput' : n.input = us ++ t :: rest := by
        rw [← hahead]
        exact (next?_eq_some_iff.1 hnext).2.2.symm
      have hus' : ∀ v ∈ us, v.kind ≠ .eof := by
        intro v hv
        exact hus v (List.mem_cons_of_mem u hv)
      rcases ih hinput' hus' with ⟨d, hpasses, hd⟩
      exact ⟨d, passes_cons_iff.2 ⟨hcurrent, n, hnext, hpasses⟩, hd⟩

/-! ## Accepting tokens -/

/-- The current token is accepted where it can be passed and its kind is asked for. -/
theorem accept?_of_passes {c d : Cursor} {t : Token} {kinds : List Kind}
    (hpasses : c.Passes [t] d) (hkind : t.kind ∈ kinds) : c.accept? kinds = some d := by
  rcases passes_cons_iff.1 hpasses with ⟨hcurrent, n, hnext, hrest⟩
  have hnd : n = d := passes_nil_iff.1 hrest
  subst hcurrent hnd
  exact accept?_eq_some_iff.2 ⟨hkind, hnext⟩

/-- Nothing is accepted where the kind of the current token is not asked for. -/
theorem accept?_eq_none {c : Cursor} {kinds : List Kind} (hkind : c.current.kind ∉ kinds) :
    c.accept? kinds = none := by
  cases haccept : c.accept? kinds with
  | none => rfl
  | some d =>
    have hmem := (accept?_eq_some_iff.1 haccept).1
    contradiction

/-- Where nothing is accepted the kind of the current token is not asked for, an end
token apart. -/
theorem kind_not_mem_of_accept?_eq_none {c : Cursor} {kinds : List Kind}
    (haccept : c.accept? kinds = none) (heof : .eof ∉ kinds) : c.current.kind ∉ kinds := by
  intro hkind
  cases hnext : c.next? with
  | none =>
    have hend : c.current.kind = .eof := by simpa [atEnd] using next?_eq_none_iff.1 hnext
    rw [hend] at hkind
    exact heof hkind
  | some d =>
    rw [accept?_eq_some_iff.2 ⟨hkind, hnext⟩] at haccept
    contradiction

end Cursor

/-! ## The tokens before the first end token -/

/-- The tokens of a sequence before its first end token. -/
def body (ts : List Token) : List Token :=
  ts.takeWhile fun t => t.kind ≠ .eof

/-- The index of the first end token of a sequence. -/
def endIndex (ts : List Token) : Nat :=
  ts.findIdx fun t => t.kind = .eof

/-- The body reaches up to the first end token. -/
theorem length_body (ts : List Token) : (body ts).length = endIndex ts := by
  induction ts with
  | nil => rfl
  | cons t ts ih =>
    by_cases ht : t.kind = .eof
    · simp [body, endIndex, List.findIdx_cons, ht]
    · simpa [body, endIndex, List.findIdx_cons, ht] using ih

/-- The body of a sequence holds no end token. -/
theorem kind_ne_eof_of_mem_body {ts : List Token} {t : Token} (ht : t ∈ body ts) :
    t.kind ≠ .eof := by
  have hall : (body ts).all (fun t => t.kind ≠ .eof) = true := List.all_takeWhile
  simpa using List.all_eq_true.1 hall t ht

/-- Tokens without an end token before one that is are the body. -/
theorem body_append {us rest : List Token} {e : Token} (hus : ∀ u ∈ us, u.kind ≠ .eof)
    (he : e.kind = .eof) : body (us ++ e :: rest) = us := by
  have hpass : ∀ u ∈ us, decide (u.kind ≠ .eof) = true := by simpa using hus
  unfold body
  rw [List.takeWhile_append_of_pos hpass]
  simp [he]

/-- A sequence is closed exactly when its last token is an end token. -/
theorem closed_iff {ts : List Token} :
    closed ts = true ↔ ∃ e, ts.getLast? = some e ∧ e.kind = .eof := by
  simp [closed, Option.any_eq_true]

/-- An end token closes whatever stands before it. -/
theorem closed_concat {e : Token} (he : e.kind = .eof) (ts : List Token) :
    closed (ts ++ [e]) = true :=
  closed_iff.2 ⟨e, by simp, he⟩

/-- In a closed sequence an end token comes right after the body. -/
theorem exists_eq_body_append {ts : List Token} (h : closed ts = true) :
    ∃ e rest, ts = body ts ++ e :: rest ∧ e.kind = .eof := by
  rcases closed_iff.1 h with ⟨last, hlast, hkind⟩
  have hsplit : body ts ++ ts.dropWhile (fun t => t.kind ≠ .eof) = ts :=
    List.takeWhile_append_dropWhile
  cases hdrop : ts.dropWhile fun t => t.kind ≠ .eof with
  | nil =>
    rw [hdrop, List.append_nil] at hsplit
    rw [← hsplit] at hlast
    have hne := kind_ne_eof_of_mem_body (List.mem_of_getLast? hlast)
    contradiction
  | cons e rest =>
    rw [hdrop] at hsplit
    have hstop := List.head?_dropWhile_not (fun t : Token => decide (t.kind ≠ .eof)) ts
    rw [hdrop] at hstop
    have hkind' : e.kind = .eof := by simpa using hstop
    exact ⟨e, rest, hsplit.symm, hkind'⟩

namespace Cursor

/-- A passage up to an end token passes the body of what is left. -/
theorem Passes.eq_body {c d : Cursor} {us : List Token} (h : c.Passes us d)
    (hend : d.atEnd = true) : us = body c.input := by
  have hkind : d.current.kind = .eof := by simpa [atEnd] using hend
  rw [h.input_eq, input, body_append h.kind_ne_eof hkind]

/-- What is passed is the first part of the body. -/
theorem Passes.body_eq {c d : Cursor} {us : List Token} (h : c.Passes us d) :
    body c.input = us ++ body d.input := by
  have hpass : ∀ u ∈ us, decide (u.kind ≠ .eof) = true := by simpa using h.kind_ne_eof
  rw [h.input_eq, body, List.takeWhile_append_of_pos hpass]
  rfl

/-- No passage from the first token goes past the first end token. -/
theorem Passes.position_le_endIndex {c d : Cursor} {us : List Token} (h : c.Passes us d)
    (hbehind : c.behind = []) : d.position ≤ endIndex c.input := by
  rw [h.position_eq, position, hbehind, ← length_body, h.body_eq, List.length_append]
  simp

/-- The first end token can always be reached. -/
theorem exists_passes_body (c : Cursor) : ∃ d, c.Passes (body c.input) d ∧ d.atEnd = true := by
  have hclosed : closed c.input = true := c.closed_ahead
  rcases exists_eq_body_append hclosed with ⟨e, rest, hinput, he⟩
  have hbody : ∀ u ∈ body c.input, u.kind ≠ .eof := by
    intro u hu
    exact kind_ne_eof_of_mem_body hu
  rcases exists_passes hinput hbody with ⟨d, hpasses, hd⟩
  refine ⟨d, hpasses, ?_⟩
  rw [atEnd, (List.cons.inj hd).1, he]
  rfl

/-! ## Cursors on whole sequences -/

/-- A sequence that is not closed has no cursor. -/
theorem ofTokens_of_not_closed {ts : List Token} (h : closed ts = false) :
    ofTokens ts = .error .missingEof := by
  cases ts with
  | nil => rfl
  | cons t ts => simp [ofTokens, h]

/-- A closed sequence has a cursor with all its tokens ahead. -/
theorem ofTokens_of_closed {ts : List Token} (h : closed ts = true) :
    ∃ c, ofTokens ts = .ok c ∧ c.input = ts := by
  cases ts with
  | nil => simp at h
  | cons t ts => exact ⟨⟨[], t, ts, h⟩, by simp [ofTokens, h], rfl⟩

/-- The cursor of a sequence has all its tokens ahead, and none behind. -/
theorem ofTokens_eq_ok_iff {ts : List Token} {c : Cursor} :
    ofTokens ts = .ok c ↔ c.behind = [] ∧ c.input = ts := by
  constructor
  · intro h
    cases ts with
    | nil => cases h
    | cons t ts =>
      simp only [ofTokens] at h
      split at h
      · cases h
        exact ⟨rfl, rfl⟩
      · cases h
  · intro h
    rcases c with ⟨behind, current, ahead, hclosed⟩
    rcases h with ⟨rfl, rfl⟩
    simp [ofTokens, input, hclosed]

/-- The cursor of a sequence is at the start of that. -/
theorem start_of_ofTokens {ts : List Token} {c : Cursor} (h : ofTokens ts = .ok c) :
    c.tokens = ts ∧ c.position = 0 := by
  rcases ofTokens_eq_ok_iff.1 h with ⟨hbehind, hinput⟩
  constructor
  · rw [tokens, hbehind]
    exact hinput
  · rw [position, hbehind]
    rfl

end Cursor

end Arith
