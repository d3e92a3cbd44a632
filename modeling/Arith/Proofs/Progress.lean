import Arith.Proofs.Scan
import Arith.Proofs.Sliced

/-!
# Scanning slices no character

By slices, a text is scanned exactly as it is by its characters, round by round and at the same
positions.  In particular the scan always has a result: whatever characters the text has, the
position is at a character boundary before every round, and each round moves it past what the
chosen pattern found.

Main results:

- `Pattern.first?_of_leading?_eq_some`: the chosen pattern takes the lexeme at the position.
- `ByteScanner.Follows`: a scanner of bytes stands where a scanner of characters does.
- `ByteScanner.Follows.round_cases`: what one round can do.
- `ByteScanner.Follows.run_eq`: what the loop does.
- `ByteScanner.Reaches.follows`, `Scanner.Reaches.followed`: both loops go through the same rounds.
- `ByteScanner.scan_safe`: every round is safe, and the loop ends.
-/

namespace Arith

namespace Text

/-- A text takes as many bytes as the string with that text. -/
theorem byteLength_eq (cs : List Char) : byteLength cs = (String.ofList cs).utf8ByteSize := by
  rw [← byteLength_toList, String.toList_ofList]

/-- The bytes of a text end at a character boundary of any longer one. -/
theorem isValid_append (a b : String) : String.Pos.Raw.IsValid (a ++ b) ⟨a.utf8ByteSize⟩ :=
  String.Pos.Raw.isValid_iff_exists_append.2 ⟨a, b, rfl, rfl⟩

/-- The boundary after the bytes of a text splits a longer one there. -/
theorem splits_pos (a b : String) :
    ((a ++ b).pos ⟨a.utf8ByteSize⟩ (isValid_append a b)).Splits a b :=
  ⟨rfl, rfl⟩

/-- What comes after the bytes of a text at the front can be sliced off. -/
theorem from?_append (a b : String) : from? (a ++ b) a.utf8ByteSize = some b := by
  rw [from?, dif_pos (isValid_append a b)]
  exact congrArg some ((String.Pos.splits _).eq_right (splits_pos a b))

/-- A text at the front can be sliced off by its bytes. -/
theorem upTo?_append (a b : String) : upTo? (a ++ b) a.utf8ByteSize = some a := by
  rw [upTo?, dif_pos (isValid_append a b)]
  exact congrArg some ((String.Pos.splits _).eq_left (splits_pos a b))

end Text

/-! ## Patterns find lexemes -/

namespace Search

/-- Some characters of a class are found exactly where one is. -/
theorem isSome_many (p : Char → Bool) (c : Char) (cs : List Char) :
    (many p (c :: cs)).isSome = p c := by
  by_cases hc : p c = true <;> simp [many, hc]

/-- A character is found exactly where it stands. -/
theorem isSome_single (c d : Char) (cs : List Char) :
    (single c (d :: cs)).isSome = decide (d = c) := by
  by_cases hd : d = c <;> simp [single, hd]

end Search

namespace Pattern

theorem isSome_blanks (c : Char) (cs : List Char) :
    (blanks.search (c :: cs)).isSome = Text.isBlank c :=
  Search.isSome_many Text.isBlank c cs

theorem isSome_numeral (c : Char) (cs : List Char) :
    (numeral.search (c :: cs)).isSome = c.isDigit := by
  unfold numeral Search.numeral
  rw [Option.isSome_map, Search.isSome_many]

theorem isSome_glyph (kind : Kind) (d c : Char) (cs : List Char) :
    ((glyph kind d).search (c :: cs)).isSome = decide (c = d) :=
  Search.isSome_single d c cs

/-- The patterns are tried as lexemes are told apart: by the first character. -/
theorem first?_cons (c : Char) (cs : List Char) :
    first? (c :: cs) =
      if Text.isBlank c then some blanks
      else if c.isDigit then some numeral
      else (Kind.ofGlyph? c).map fun kind => glyph kind c := by
  simp only [first?, all, List.find?_cons, isSome_blanks, isSome_numeral, isSome_glyph]
  cases hblank : Text.isBlank c with
  | true => rfl
  | false =>
    cases hdigit : c.isDigit with
    | true => rfl
    | false =>
      cases hglyph : Kind.ofGlyph? c with
      | some kind =>
        have hc := Kind.ofGlyph?_eq_some_iff.1 hglyph
        cases kind <;> simp [Kind.glyph?] at hc <;> subst hc <;> rfl
      | none =>
        have hother : ∀ d, (Kind.ofGlyph? d).isSome = true → c ≠ d := by
          intro d hd hsame
          rw [← hsame, hglyph] at hd
          cases hd
        simp [hother '+' rfl, hother '-' rfl, hother '*' rfl, hother '/' rfl]

end Pattern

namespace ByteScanner

/-- Records the token of a lexeme, if it makes one, and moves past its text. -/
def take (s : ByteScanner) (l : Lexeme) : ByteScanner :=
  (l.token?.elim s s.push).advance (Text.byteLength l.text)

@[simp]
theorem take_source (s : ByteScanner) (l : Lexeme) : (s.take l).source = s.source := by
  unfold take
  cases l.token? <;> rfl

@[simp]
theorem take_position (s : ByteScanner) (l : Lexeme) :
    (s.take l).position = s.position + Text.byteLength l.text := by
  unfold take
  cases l.token? <;> rfl

theorem take_tokens (s : ByteScanner) (l : Lexeme) :
    (s.take l).tokens = s.tokens ++ l.token?.toList := by
  unfold take
  cases l.token? <;> simp [advance, push]

end ByteScanner

/-! ## Handlers take lexemes -/

section

variable {s : ByteScanner} {search : Search} {cs text after : List Char}

/-- The length of what a search finds is that of the text it finds. -/
theorem ByteScanner.matchedLength?_eq (hrest : s.remainder? = some (String.ofList cs))
    (hsearch : search cs = some text) :
    s.matchedLength? search = some (Text.byteLength text) := by
  simp [matchedLength?, hrest, hsearch]

/-- Text that is found and skipped is passed. -/
theorem Handler.skip_eq (hrest : s.remainder? = some (String.ofList cs))
    (hsearch : search cs = some text) :
    skip search s = some (s.advance (Text.byteLength text)) := by
  simp [skip, ByteScanner.matchedLength?_eq hrest hsearch]

/-- Text that is found at the front can be sliced off, and is passed as a number. -/
theorem Handler.number_eq (hrest : s.remainder? = some (String.ofList cs))
    (hsearch : search cs = some text) (hsplit : text ++ after = cs) :
    number search s =
      some ((s.push (.number (String.ofList text))).advance (Text.byteLength text)) := by
  have hslice : Text.upTo? (String.ofList cs) (Text.byteLength text) =
      some (String.ofList text) := by
    rw [← hsplit, String.ofList_append, Text.byteLength_eq]
    exact Text.upTo?_append _ _
  simp [number, ByteScanner.matchedLength?_eq hrest hsearch, hrest, hslice]

end

namespace Pattern

/-- A pattern takes a lexeme off a text if it finds the text of the lexeme there, and its handler
does with any scanner at that text what is to be done with the lexeme. -/
structure Takes (p : Pattern) (cs : List Char) (l : Lexeme) : Prop where
  search : p.search cs = some l.text
  handler : ∀ s : ByteScanner, s.remainder? = some (String.ofList cs) →
    p.handler p.search s = some (s.take l)

/-- Blanks are passed by the length of what is found. -/
theorem blanks_takes {c : Char} (hc : Text.isBlank c = true) (cs : List Char) :
    blanks.Takes (c :: cs) ⟨none, (c :: cs).takeWhile Text.isBlank⟩ := by
  have hsearch : blanks.search (c :: cs) = some ((c :: cs).takeWhile Text.isBlank) :=
    if_pos hc
  refine ⟨hsearch, ?_⟩
  intro s hrest
  exact Handler.skip_eq hrest hsearch

/-- A numeral is sliced off the remainder by the length of what is found. -/
theorem numeral_takes {c : Char} (hc : c.isDigit = true) (cs : List Char) :
    numeral.Takes (c :: cs) ⟨some .number, Numeral.leading (c :: cs)⟩ := by
  have hsearch : numeral.search (c :: cs) = some (Numeral.leading (c :: cs)) := by
    simp [numeral, Search.numeral, Search.many, hc]
  refine ⟨hsearch, ?_⟩
  intro s hrest
  exact Handler.number_eq hrest hsearch (Numeral.leading_append (c :: cs))

/-- A glyph is passed by its own length, which is that of what is found. -/
theorem glyph_takes (kind : Kind) (c : Char) (cs : List Char) :
    (glyph kind c).Takes (c :: cs) ⟨some kind, [c]⟩ := by
  refine ⟨if_pos rfl, ?_⟩
  intro s _
  have hlength : (String.singleton c).utf8ByteSize = Text.byteLength [c] := by simp
  unfold glyph Handler.glyph
  rw [hlength, String.singleton_eq_ofList]
  rfl

/-- Where a lexeme starts, the first pattern that finds something takes it. -/
theorem first?_of_leading?_eq_some {c : Char} {cs : List Char} {l : Lexeme}
    (hlead : Lexeme.leading? (c :: cs) = some l) :
    ∃ p, first? (c :: cs) = some p ∧ p.Takes (c :: cs) l := by
  simp only [Lexeme.leading?] at hlead
  rw [first?_cons]
  by_cases hblank : Text.isBlank c = true
  · rw [if_pos hblank] at hlead ⊢
    cases hlead
    exact ⟨blanks, rfl, blanks_takes hblank cs⟩
  · rw [if_neg hblank] at hlead ⊢
    by_cases hdigit : c.isDigit = true
    · rw [if_pos hdigit] at hlead ⊢
      cases hlead
      exact ⟨numeral, rfl, numeral_takes hdigit cs⟩
    · rw [if_neg hdigit] at hlead ⊢
      rcases Option.map_eq_some_iff.1 hlead with ⟨kind, hkind, rfl⟩
      exact ⟨glyph kind c, by rw [hkind]; rfl, glyph_takes kind c cs⟩

/-- Where no lexeme starts, no pattern finds anything. -/
theorem first?_of_leading?_eq_none {c : Char} {cs : List Char}
    (hlead : Lexeme.leading? (c :: cs) = none) : first? (c :: cs) = none := by
  simp only [Lexeme.leading?] at hlead
  rw [first?_cons]
  by_cases hblank : Text.isBlank c = true
  · simp [hblank] at hlead
  · by_cases hdigit : c.isDigit = true
    · simp [hblank, hdigit] at hlead
    · simpa [hblank, hdigit] using hlead

end Pattern

namespace ByteScanner

/-! ## Rounds take lexemes -/

/-- A round takes the lexeme at the position. -/
theorem round_of_leading?_eq_some {s : ByteScanner} {c : Char} {cs : List Char} {l : Lexeme}
    (hrest : s.remainder? = some (String.ofList (c :: cs)))
    (hlead : Lexeme.leading? (c :: cs) = some l) : s.round = some (.ok (s.take l)) := by
  rcases Pattern.first?_of_leading?_eq_some hlead with ⟨p, hfirst, htakes⟩
  simp [round, hrest, hfirst, htakes.handler s hrest]

/-- A character that starts no lexeme is reported. -/
theorem round_of_leading?_eq_none {s : ByteScanner} {c : Char} {cs : List Char}
    (hrest : s.remainder? = some (String.ofList (c :: cs)))
    (hlead : Lexeme.leading? (c :: cs) = none) : s.round = some (.error (.unrecognised c)) := by
  have hfirst := Pattern.first?_of_leading?_eq_none hlead
  simp [round, hrest, hfirst]

/-! ## The position stays at character boundaries -/

/-- A scanner of bytes stands where a scanner of characters does: both have the same position and
have found the same tokens, and the text is what was passed, with the position right after it, and
what is left. -/
structure Follows (s : ByteScanner) (t : Scanner) : Prop where
  boundary : t.overshoot = 0
  offset : s.position = t.offset
  tokens : s.tokens = t.found.reverse
  split : ∃ passed : String, s.source = passed ++ String.ofList t.rest ∧
    s.position = passed.utf8ByteSize

namespace Follows

variable {s : ByteScanner} {t : Scanner}

/-- What is left can be sliced off. -/
theorem remainder?_eq (h : Follows s t) : s.remainder? = some (String.ofList t.rest) := by
  rcases h.split with ⟨passed, hsource, hposition⟩
  rw [remainder?, hsource, hposition]
  exact Text.from?_append _ _

/-- The position is at a character boundary. -/
theorem isValid (h : Follows s t) : String.Pos.Raw.IsValid s.source ⟨s.position⟩ := by
  rcases h.split with ⟨passed, hsource, hposition⟩
  rw [hsource, hposition]
  exact Text.isValid_append _ _

/-- The text ends where nothing is left of it. -/
theorem position_add (h : Follows s t) :
    s.position + Text.byteLength t.rest = s.source.utf8ByteSize := by
  rcases h.split with ⟨passed, hsource, hposition⟩
  rw [hsource, hposition, String.utf8ByteSize_append, Text.byteLength_eq]

/-- Both are at the end of the text or neither is. -/
theorem atEnd_iff (h : Follows s t) : s.atEnd = true ↔ t.rest = [] := by
  have hposition := h.position_add
  rw [← Text.byteLength_eq_zero_iff, atEnd, decide_eq_true_eq]
  omega

theorem atEnd_eq (h : Follows s t) : s.atEnd = t.atEnd := by
  rw [Bool.eq_iff_iff, h.atEnd_iff, Scanner.atEnd, List.isEmpty_iff]

/-- Both take the lexeme at the position. -/
theorem take (h : Follows s t) {l : Lexeme} {after : List Char} (hrest : t.rest = l.text ++ after) :
    Follows (s.take l) (t.take l) := by
  rcases Scanner.take_eq_of_rest_eq h.boundary hrest with ⟨hrest', hboundary⟩
  rcases h.split with ⟨passed, hsource, hposition⟩
  refine ⟨hboundary, ?_, ?_, passed ++ String.ofList l.text, ?_, ?_⟩
  · rw [take_position, Scanner.take_offset, h.offset]
  · rw [take_tokens, Scanner.take_found, h.tokens]
    cases l.token? <;> simp
  · rw [take_source, hsource, hrest, hrest', String.ofList_append, String.append_assoc]
  · rw [take_position, hposition, String.utf8ByteSize_append, Text.byteLength_eq]

/-- Before the end of the text, a round takes the lexeme at the position, which leaves less of the
text, or reports the character that starts none; and a step of the scanner of characters does the
same. -/
theorem round_cases (h : Follows s t) (hopen : s.atEnd = false) :
    ∃ c cs, t.rest = c :: cs ∧
      ((Lexeme.leading? (c :: cs) = none ∧ s.round = some (.error (.unrecognised c)) ∧
          t.step = .error (.unrecognised c)) ∨
        ∃ l, Lexeme.leading? (c :: cs) = some l ∧ s.round = some (.ok (s.take l)) ∧
          t.step = .ok (t.take l) ∧ Follows (s.take l) (t.take l) ∧
          (t.take l).rest.length < t.rest.length) := by
  have hremainder := h.remainder?_eq
  cases hrest : t.rest with
  | nil =>
    rw [h.atEnd_iff.2 hrest] at hopen
    contradiction
  | cons c cs =>
    rw [hrest] at hremainder
    refine ⟨c, cs, rfl, ?_⟩
    cases hlead : Lexeme.leading? (c :: cs) with
    | none =>
      left
      exact ⟨rfl, round_of_leading?_eq_none hremainder hlead,
        Scanner.step_of_leading?_eq_none hrest hlead⟩
    | some l =>
      rcases Lexeme.leading?_eq_some hlead with ⟨more, after, htext, hcs⟩
      have hsplit : t.rest = l.text ++ after := by
        rw [hrest, htext, hcs]
        rfl
      have hshorter : (t.take l).rest.length < (c :: cs).length := by
        rw [(Scanner.take_eq_of_rest_eq h.boundary hsplit).1, hcs, List.length_cons,
          List.length_append]
        omega
      right
      exact ⟨l, rfl, round_of_leading?_eq_some hremainder hlead,
        Scanner.step_of_leading?_eq_some hrest hlead, h.take hsplit, hshorter⟩

/-- The loop ends within as many rounds as there are characters left.  It finds the tokens that
scanning by characters finds, with the position at the end of the text, or it reports what that
reports. -/
theorem run_eq (h : Follows s t) {rounds : Nat} (hrounds : t.rest.length ≤ rounds) :
    ∃ r, s.run rounds = some r ∧ (r.map fun last => (last.push .eof).tokens) = t.run ∧
      ∀ last, r = .ok last → last.position = s.source.utf8ByteSize := by
  fun_induction run rounds s generalizing t with
  | case1 rounds s hend =>
    have hnil := h.atEnd_iff.1 hend
    have hposition := h.position_add
    refine ⟨.ok s, rfl, ?_, ?_⟩
    · rw [Scanner.run_of_rest_eq_nil hnil]
      simp [Except.map, push, h.tokens]
    · intro last hlast
      cases hlast
      simpa [hnil] using hposition
  | case2 s hopen =>
    have hnil : t.rest = [] := List.length_eq_zero_iff.1 (Nat.le_zero.1 hrounds)
    exact absurd (h.atEnd_iff.2 hnil) hopen
  | case3 s hopen rounds ih =>
    rcases h.round_cases (by simpa using hopen) with
      ⟨c, cs, hrest, ⟨hlead, hround, -⟩ | ⟨l, hlead, hround, -, hnext, hshorter⟩⟩
    · refine ⟨.error (.unrecognised c), ?_, ?_, ?_⟩
      · rw [hround]
        rfl
      · rw [Scanner.run_of_leading?_eq_none hrest hlead]
        rfl
      · intro last hlast
        cases hlast
    · rw [hround, Scanner.run_of_leading?_eq_some hrest hlead]
      have hlater := ih (s.take l) hnext (by omega)
      rwa [take_source] at hlater

end Follows

/-- At the start of a text both scanners stand at its first character. -/
theorem follows_ofSource (source : String) :
    Follows (ofSource source) (Scanner.ofSource source) :=
  ⟨rfl, rfl, rfl, "", by simp [ofSource, Scanner.ofSource], rfl⟩

end ByteScanner

/-! ## Both loops go through the same rounds -/

/-- The scanners of characters at the heads of rounds: where their loop stands after a number of
steps that reported nothing. -/
inductive Scanner.Reaches (source : String) : Nat → Scanner → Prop
  | start : Reaches source 0 (ofSource source)
  | next {rounds : Nat} {s t : Scanner} (h : Reaches source rounds s)
      (hopen : s.atEnd = false) (hstep : s.step = .ok t) : Reaches source (rounds + 1) t

/-- At the head of every round the scanner of bytes stands where the scanner of characters does in
the same round, and at least as many characters are passed as there were rounds. -/
theorem ByteScanner.Reaches.follows {source : String} {rounds : Nat} {s : ByteScanner}
    (h : Reaches source rounds s) :
    s.source = source ∧ ∃ t, Scanner.Reaches source rounds t ∧ Follows s t ∧
      rounds + t.rest.length ≤ source.length := by
  induction h with
  | start =>
    refine ⟨rfl, Scanner.ofSource source, .start, follows_ofSource source, ?_⟩
    simp [Scanner.ofSource, String.length_toList]
  | next _ hopen hround ih =>
    rcases ih with ⟨hsource, t, hreaches, hfollows, hrounds⟩
    rcases hfollows.round_cases hopen with
      ⟨c, cs, -, ⟨-, herror, -⟩ | ⟨l, -, hok, hstep, hnext, hshorter⟩⟩
    · rw [herror] at hround
      cases hround
    · rw [hok] at hround
      cases hround
      have hopen' : t.atEnd = false := hfollows.atEnd_eq.symm.trans hopen
      exact ⟨(take_source _ l).trans hsource, t.take l, .next hreaches hopen' hstep, hnext,
        by omega⟩

/-- In every round of the scanner of characters, the scanner of bytes stands where it does. -/
theorem Scanner.Reaches.followed {source : String} {rounds : Nat} {t : Scanner}
    (h : Reaches source rounds t) :
    ∃ s, ByteScanner.Reaches source rounds s ∧ s.Follows t := by
  induction h with
  | start => exact ⟨_, .start, ByteScanner.follows_ofSource source⟩
  | next _ hopen hstep ih =>
    rcases ih with ⟨s, hreaches, hfollows⟩
    have hopen' : s.atEnd = false := hfollows.atEnd_eq.trans hopen
    rcases hfollows.round_cases hopen' with
      ⟨c, cs, -, ⟨-, -, herror⟩ | ⟨l, -, hround, hok, hnext, -⟩⟩
    · rw [herror] at hstep
      cases hstep
    · rw [hok] at hstep
      cases hstep
      exact ⟨s.take l, .next hreaches hopen' hround, hnext⟩

namespace ByteScanner

/-! ## Every round is safe -/

/-- A round finds all it needs: the position is at a character boundary of the text, so the slices
are defined, and unless something is reported the position moves past a text that is not empty,
the one that the chosen pattern finds at the front of the remainder. -/
structure Safe (s : ByteScanner) : Prop where
  boundary : String.Pos.Raw.IsValid s.source ⟨s.position⟩
  position_le : s.position ≤ s.source.utf8ByteSize
  remainder : ∃ rest, s.remainder? = some rest
  round : s.atEnd = false → ∃ r, s.round = some r
  progress : ∀ rest next, s.atEnd = false → s.remainder? = some rest →
    s.round = some (.ok next) → ∃ p text, Pattern.first? rest.toList = some p ∧
      p.search rest.toList = some text ∧ text ≠ [] ∧ text <+: rest.toList ∧
      next.position = s.position + Text.byteLength text

/-- A round is safe wherever a scanner of characters can stand. -/
theorem Follows.safe {s : ByteScanner} {t : Scanner} (h : Follows s t) : s.Safe where
  boundary := h.isValid
  position_le := by
    have hposition := h.position_add
    omega
  remainder := ⟨_, h.remainder?_eq⟩
  round hopen := by
    rcases h.round_cases hopen with ⟨c, cs, -, ⟨-, hround, -⟩ | ⟨l, -, hround, -⟩⟩
    · exact ⟨_, hround⟩
    · exact ⟨_, hround⟩
  progress rest next hopen hrest hnext := by
    rw [h.remainder?_eq] at hrest
    cases hrest
    rw [String.toList_ofList]
    rcases h.round_cases hopen with ⟨c, cs, hcs, ⟨-, hround, -⟩ | ⟨l, hlead, hround, -⟩⟩
    · rw [hround] at hnext
      cases hnext
    · rw [hround] at hnext
      cases hnext
      rcases Pattern.first?_of_leading?_eq_some hlead with ⟨p, hfirst, htakes⟩
      rcases Lexeme.leading?_eq_some hlead with ⟨more, after, htext, hmore⟩
      rw [hcs]
      refine ⟨p, l.text, hfirst, htakes.search, by simp [htext], ⟨after, ?_⟩, take_position s l⟩
      rw [htext, hmore]
      rfl

/-- Scanning slices no character and always ends, whatever characters the text has.  Every round
is safe, and there are no more of them than the text has characters.  The scanner of characters
goes through the same rounds, at the same positions and with the same tokens.  The loop ends in a
report or with the position at the end of the text, and the result is that of scanning by
characters. -/
theorem scan_safe (source : String) :
    (∀ rounds s, Reaches source rounds s → s.source = source ∧ s.Safe ∧ rounds ≤ source.length ∧
      ∃ t, Scanner.Reaches source rounds t ∧ s.Follows t) ∧
    (∀ rounds t, Scanner.Reaches source rounds t → ∃ s, Reaches source rounds s ∧ s.Follows t) ∧
    (∃ r, run source.length (ofSource source) = some r ∧
      ∀ last, r = .ok last → last.position = source.utf8ByteSize) ∧
    scan source = some (Token.scan source) := by
  refine ⟨?_, ?_, ?_⟩
  · intro rounds s h
    rcases h.follows with ⟨hsource, t, hreaches, hfollows, hrounds⟩
    exact ⟨hsource, hfollows.safe, by omega, t, hreaches, hfollows⟩
  · intro rounds t h
    exact h.followed
  · have hlength : (Scanner.ofSource source).rest.length ≤ source.length := by
      simp [Scanner.ofSource, String.length_toList]
    rcases (follows_ofSource source).run_eq hlength with ⟨r, hrun, htokens, hposition⟩
    refine ⟨⟨r, hrun, hposition⟩, ?_⟩
    simp [scan, hrun, htokens, Token.scan]

/-- Two rounds pass a number and a blank of three bytes; the next round starts at the operator. -/
theorem scan_safe_wide_blank :
    Reaches "1\u3000+" 2 ⟨"1\u3000+", 4, [.number "1"]⟩ ∧
      String.Pos.Raw.IsValid "1\u3000+" ⟨4⟩ ∧
      ¬ String.Pos.Raw.IsValid "1\u3000+" ⟨3⟩ ∧
      scan "1\u3000+" = some (Token.scan "1\u3000+") := by
  have hreaches : Reaches "1\u3000+" 2 ⟨"1\u3000+", 4, [.number "1"]⟩ := by
    have hnumber : Reaches "1\u3000+" 1 ⟨"1\u3000+", 1, [.number "1"]⟩ :=
      .next .start (by decide +kernel) (by decide +kernel)
    exact .next hnumber (by decide +kernel) (by decide +kernel)
  rcases scan_safe "1\u3000+" with ⟨hrounds, -, -, hscan⟩
  exact ⟨hreaches, (hrounds _ _ hreaches).2.1.boundary, by decide +kernel, hscan⟩

end ByteScanner

end Arith
