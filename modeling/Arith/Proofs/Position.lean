import Arith.Scanner

/-!
# Byte positions

Moved by hand, a scanner can come to stand within a character or beyond the text, and it can be
moved on from there.  However it got there, all that can be seen of it is told by the number of
bytes it was moved by: whether that many bytes reach the end of the text, and which part of the
text comes after them, if they make up whole characters.

Main results:

- `Scanner.advanced`: the number of bytes that some moves go forward.
- `Scanner.settle_spec`: which characters a number of bytes covers.
- `Scanner.StandsAt`: a scanner stands after a number of bytes of a text.
- `Scanner.StandsAt.perform`, `Scanner.StandsAt.trace`: moves and runs add up.
- `Scanner.StandsAt.remainder?_eq_some_iff`: what can be read off a scanner.
- `Scanner.trace_position`: after every move of a run, the number of bytes tells it all.
-/

namespace Arith

namespace Scanner

/-! ## Moves -/

/-- The number of bytes that a move goes forward. -/
def Move.bytes : Move → Nat
  | .look => 0
  | .advance n => n
  | .push _ => 0

/-- The number of bytes that moves go forward together. -/
def advanced : List Move → Nat
  | [] => 0
  | m :: ms => m.bytes + advanced ms

/-- On the way, moves have gone no further than they go together. -/
theorem advanced_take_le (ms : List Move) (n : Nat) : advanced (ms.take n) ≤ advanced ms := by
  induction ms generalizing n with
  | nil => simp
  | cons m ms ih =>
    cases n with
    | zero => exact Nat.zero_le _
    | succ n => exact Nat.add_le_add_left (ih n) m.bytes

/-! ## Characters that some bytes cover -/

/-- The characters that are dropped within `n` bytes, with the bytes that remain, take `n` bytes;
and the first character that is left takes more bytes than remain. -/
theorem settle_spec (n : Nat) (cs : List Char) :
    ∃ dropped, cs = dropped ++ (settle n cs).2 ∧ Text.byteLength dropped + (settle n cs).1 = n ∧
      ∀ c ∈ (settle n cs).2.head?, (settle n cs).1 < c.utf8Size := by
  induction cs generalizing n with
  | nil => exact ⟨[], by simp [settle]⟩
  | cons c cs ih =>
    unfold settle
    by_cases hc : c.utf8Size ≤ n
    · rw [if_pos hc]
      rcases ih (n - c.utf8Size) with ⟨dropped, hsplit, hbytes, hnext⟩
      refine ⟨c :: dropped, ?_, ?_, hnext⟩
      · rw [List.cons_append, ← hsplit]
      · rw [Text.byteLength_cons]
        omega
    · rw [if_neg hc]
      refine ⟨[], rfl, Nat.zero_add n, ?_⟩
      intro d hd
      have hcd : c = d := by simpa using hd
      rw [← hcd]
      exact Nat.lt_of_not_le hc

/-! ## Where a scanner stands -/

/-- A scanner stands after a number of bytes of a text: those of the characters passed, and some
that are too few for the next character. -/
structure StandsAt (source : String) (bytes : Nat) (s : Scanner) : Prop where
  offset : s.offset = bytes
  split : ∃ passed, source.toList = passed ++ s.rest ∧
    Text.byteLength passed + s.overshoot = bytes
  overshoot : ∀ c ∈ s.rest.head?, s.overshoot < c.utf8Size

namespace StandsAt

variable {source : String} {bytes : Nat} {s : Scanner}

/-- A scanner of a text starts at its first byte. -/
theorem ofSource (source : String) : StandsAt source 0 (Scanner.ofSource source) := by
  refine ⟨rfl, ⟨[], rfl, rfl⟩, ?_⟩
  intro c _
  exact c.utf8Size_pos

/-- To move forward adds to the bytes, also from within a character. -/
theorem advance (h : StandsAt source bytes s) (n : Nat) :
    StandsAt source (bytes + n) (s.advance n) := by
  rcases h.split with ⟨passed, hsource, hbytes⟩
  rcases settle_spec (s.overshoot + n) s.rest with ⟨dropped, hrest, hdropped, hnext⟩
  refine ⟨?_, ⟨passed ++ dropped, ?_, ?_⟩, hnext⟩
  · rw [advance_offset, h.offset]
  · rw [advance_rest, List.append_assoc, ← hrest, hsource]
  · have hovershoot : (s.advance n).overshoot = (settle (s.overshoot + n) s.rest).1 := rfl
    rw [Text.byteLength_append, hovershoot]
    omega

/-- To record a token does not move. -/
theorem push (h : StandsAt source bytes s) (t : Token) : StandsAt source bytes (s.push t) :=
  ⟨h.offset, h.split, h.overshoot⟩

/-- A move adds the bytes that it goes forward. -/
theorem perform (h : StandsAt source bytes s) (m : Move) :
    StandsAt source (bytes + m.bytes) (s.perform m) := by
  cases m with
  | look => exact h
  | advance n => exact h.advance n
  | push t => exact h.push t

/-- After each move of a run, the bytes that all moves up to it went forward are added. -/
theorem trace (h : StandsAt source bytes s) {ms : List Move} {i : Nat} {t : Scanner}
    (ht : (s.trace ms)[i]? = some t) :
    StandsAt source (bytes + advanced (ms.take (i + 1))) t := by
  induction ms generalizing bytes s i with
  | nil => simp [Scanner.trace] at ht
  | cons m ms ih =>
    cases i with
    | zero =>
      have hfirst : s.perform m = t := by simpa [Scanner.trace] using ht
      rw [← hfirst]
      exact h.perform m
    | succ i =>
      have hlater : ((s.perform m).trace ms)[i]? = some t := by simpa [Scanner.trace] using ht
      have hstands := ih (h.perform m) hlater
      rwa [Nat.add_assoc] at hstands

/-! ## What can be seen of a scanner -/

/-- A scanner is at the end when its bytes reach the end of the text. -/
theorem atEnd_iff (h : StandsAt source bytes s) :
    s.atEnd = true ↔ source.utf8ByteSize ≤ bytes := by
  rcases h.split with ⟨passed, hsource, hbytes⟩
  rw [← Text.byteLength_toList, hsource, Text.byteLength_append, atEnd, List.isEmpty_iff]
  constructor
  · intro hrest
    rw [hrest, Text.byteLength_nil]
    omega
  · intro hle
    cases hrest : s.rest with
    | nil => rfl
    | cons c cs =>
      have hc : s.overshoot < c.utf8Size := h.overshoot c (by rw [hrest]; rfl)
      rw [hrest, Text.byteLength_cons] at hle
      omega

/-- Whole characters that take as many bytes as a scanner stands after are those it passed. -/
theorem split_unique (h : StandsAt source bytes s) {front back : List Char}
    (hsplit : source.toList = front ++ back) (hfront : Text.byteLength front = bytes) :
    s.overshoot = 0 ∧ s.rest = back := by
  rcases h.split with ⟨passed, hsource, hbytes⟩
  -- One of the two fronts is a part of the other.
  rcases List.append_eq_append_iff.1 (hsource.symm.trans hsplit) with
    ⟨more, hmore, hrest⟩ | ⟨more, hmore, hback⟩
  · rw [hmore, Text.byteLength_append] at hfront
    cases more with
    | nil =>
      rw [Text.byteLength_nil] at hfront
      exact ⟨by omega, hrest⟩
    | cons c more =>
      -- The bytes that go beyond what is passed are too few for a character.
      have hc : s.overshoot < c.utf8Size := h.overshoot c (by rw [hrest]; rfl)
      rw [Text.byteLength_cons] at hfront
      omega
  · rw [hmore, Text.byteLength_append] at hbytes
    have hempty : more = [] := Text.byteLength_eq_zero_iff.1 (by omega)
    rw [hempty] at hback
    exact ⟨by omega, hback.symm⟩

/-- The remainder of a scanner is what comes after whole characters that take its bytes. -/
theorem remainder?_eq_some_iff (h : StandsAt source bytes s) {rest : String} :
    s.remainder? = some rest ↔ ∃ front, source = front ++ rest ∧ front.utf8ByteSize = bytes := by
  constructor
  · intro hrest
    unfold remainder? at hrest
    split at hrest
    · rename_i hboundary
      cases hrest
      rcases h.split with ⟨passed, hsource, hbytes⟩
      refine ⟨String.ofList passed, ?_, ?_⟩
      · rw [← String.ofList_append, ← hsource, String.ofList_toList]
      · rw [← Text.byteLength_toList, String.toList_ofList]
        omega
    · cases hrest
  · intro hsplit
    rcases hsplit with ⟨front, hsource, hfront⟩
    have hlist : source.toList = front.toList ++ rest.toList := by
      rw [hsource, String.toList_append]
    rw [← Text.byteLength_toList] at hfront
    rcases h.split_unique hlist hfront with ⟨hboundary, hrest⟩
    rw [remainder?, if_pos hboundary, hrest, String.ofList_toList]

/-- Scanners that stand after the same number of bytes cannot be told apart. -/
theorem same {t : Scanner} (h : StandsAt source bytes s) (h' : StandsAt source bytes t) :
    t.atEnd = s.atEnd ∧ t.remainder? = s.remainder? := by
  constructor
  · rw [Bool.eq_iff_iff, h.atEnd_iff, h'.atEnd_iff]
  · apply Option.ext
    intro rest
    rw [h.remainder?_eq_some_iff, h'.remainder?_eq_some_iff]

end StandsAt

/-- After every move of a run, the position is the number of bytes moved so far, which is never
more than the run moves altogether, and that number tells all that can be seen.  The scanner is at
the end if the bytes reach the end of the text.  It has a remainder exactly when they make up whole
characters at the front of the text, and then the remainder is what comes after these, which there
is only one of.  A move that does not go forward changes neither, and nor does the way in which a
number of bytes was reached, which may have led through the middle of a character. -/
theorem trace_position (source : String) (ms : List Move) {i : Nat} {s : Scanner}
    (hs : ((ofSource source).trace ms)[i]? = some s) :
    (s.offset = advanced (ms.take (i + 1)) ∧ s.offset ≤ advanced ms) ∧
      (s.atEnd = true ↔ source.utf8ByteSize ≤ advanced (ms.take (i + 1))) ∧
      (∀ rest, s.remainder? = some rest ↔
        ∃ front, source = front ++ rest ∧ front.utf8ByteSize = advanced (ms.take (i + 1))) ∧
      (∀ front rest front' rest', source = front ++ rest → source = front' ++ rest' →
        front.utf8ByteSize = advanced (ms.take (i + 1)) →
        front'.utf8ByteSize = advanced (ms.take (i + 1)) → rest' = rest) ∧
      (∀ m, m.bytes = 0 →
        (s.perform m).atEnd = s.atEnd ∧ (s.perform m).remainder? = s.remainder?) ∧
      ∀ ms' j s', ((ofSource source).trace ms')[j]? = some s' →
        advanced (ms'.take (j + 1)) = advanced (ms.take (i + 1)) →
        s'.atEnd = s.atEnd ∧ s'.remainder? = s.remainder? := by
  have hstands : ∀ {ms i s}, ((ofSource source).trace ms)[i]? = some s →
      StandsAt source (advanced (ms.take (i + 1))) s := by
    intro ms i s hs
    have htrace := (StandsAt.ofSource source).trace hs
    rwa [Nat.zero_add] at htrace
  have hhere := hstands hs
  refine ⟨⟨hhere.offset, ?_⟩, hhere.atEnd_iff, fun rest => hhere.remainder?_eq_some_iff, ?_, ?_, ?_⟩
  · rw [hhere.offset]
    exact advanced_take_le ms (i + 1)
  · intro front rest front' rest' hsplit hsplit' hfront hfront'
    have hrest := hhere.remainder?_eq_some_iff.2 ⟨front, hsplit, hfront⟩
    rw [hhere.remainder?_eq_some_iff.2 ⟨front', hsplit', hfront'⟩] at hrest
    exact Option.some.inj hrest
  · intro m hm
    have hnext := hhere.perform m
    rw [hm, Nat.add_zero] at hnext
    exact hhere.same hnext
  · intro ms' j s' hs' hbytes
    have hthere := hstands hs'
    rw [hbytes] at hthere
    exact hhere.same hthere

/-- One byte within a character of two leaves no remainder, and one byte more has passed it, as two
bytes at once have. -/
theorem trace_position_within_character :
    ∃ s t u, ((ofSource "é1").trace [.advance 1, .look, .push .eof, .advance 1])[1]? = some s ∧
      ((ofSource "é1").trace [.advance 1, .look, .push .eof, .advance 1])[3]? = some t ∧
      ((ofSource "é1").trace [.advance 2])[0]? = some u ∧
      s.remainder? = none ∧ t.remainder? = some "1" ∧ t.atEnd = u.atEnd ∧
      t.remainder? = u.remainder? := by
  have ht := trace_position "é1" [.advance 1, .look, .push .eof, .advance 1] (i := 3) rfl
  have hu := trace_position "é1" [.advance 2] (i := 0) rfl
  rcases ht with ⟨-, -, hremainder, -⟩
  rcases hu with ⟨-, -, -, -, -, hsame⟩
  rcases hsame [.advance 1, .look, .push .eof, .advance 1] 3 _ rfl rfl with ⟨hatEnd, hrest⟩
  exact ⟨_, _, _, rfl, rfl, rfl, by decide, (hremainder "1").2 ⟨"é", by decide, by decide⟩, hatEnd,
    hrest⟩

end Scanner

end Arith
