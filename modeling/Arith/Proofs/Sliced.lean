import Arith.Scanner

/-!
# Scanning by slices

A second account of scanning, over the source text as it is and a byte position in it.  All that
is seen of the text is slices of it, and a slice that would start or end within a character or
beyond the text leaves the whole scan without any result.  So does a loop that goes on for more
rounds than the text has characters: nothing about the position keeps it from that.

What is looked for is kept apart from what is done about it.  Each pattern finds some text at the
position and goes with a handler, and how far a handler moves is its own choice: the one of an
operator moves by the length of the operator's glyph, whatever was found.

Main results:

- `Text.from?`, `Text.upTo?`: slices of a text.
- `ByteScanner`: a byte position in a source text, and the tokens found so far.
- `Pattern.all`: the patterns in the order in which they are tried, with their handlers.
- `ByteScanner.round`, `ByteScanner.run`: one round of scanning, and the loop.
-/

namespace Arith

namespace Text

/-- The slice of a text from a byte position on, if that is a character boundary. -/
def from? (text : String) (position : Nat) : Option String :=
  if h : String.Pos.Raw.IsValid text ⟨position⟩ then
    some (text.sliceFrom (text.pos ⟨position⟩ h)).copy
  else
    none

/-- The slice of a text up to a byte position, if that is a character boundary. -/
def upTo? (text : String) (position : Nat) : Option String :=
  if h : String.Pos.Raw.IsValid text ⟨position⟩ then
    some (text.sliceTo (text.pos ⟨position⟩ h)).copy
  else
    none

end Text

/-- A byte position in a source text, and the tokens found so far. -/
structure ByteScanner where
  source : String
  position : Nat
  tokens : List Token
deriving DecidableEq

/-- A search for some text at the front of a longer one. -/
abbrev Search : Type :=
  List Char → Option (List Char)

namespace ByteScanner

/-- A scanner at the start of a source text. -/
def ofSource (source : String) : ByteScanner :=
  ⟨source, 0, []⟩

/-- Moves the position forward by some bytes. -/
def advance (s : ByteScanner) (bytes : Nat) : ByteScanner :=
  { s with position := s.position + bytes }

/-- Records a token. -/
def push (s : ByteScanner) (t : Token) : ByteScanner :=
  { s with tokens := s.tokens ++ [t] }

/-- The slice of the text after the position. -/
def remainder? (s : ByteScanner) : Option String :=
  Text.from? s.source s.position

/-- Whether the position is at the end of the text or beyond it. -/
def atEnd (s : ByteScanner) : Bool :=
  s.source.utf8ByteSize ≤ s.position

/-- The number of bytes that a search finds at the position. -/
def matchedLength? (s : ByteScanner) (search : Search) : Option Nat := do
  let rest ← s.remainder?
  return (search rest.toList).elim 0 Text.byteLength

end ByteScanner

/-! ## Patterns and their handlers -/

namespace Search

/-- One or more characters of a class, as many as there are. -/
def many (p : Char → Bool) : Search
  | [] => none
  | c :: cs => if p c then some ((c :: cs).takeWhile p) else none

/-- The longest numeral. -/
def numeral : Search :=
  fun cs => (many Char.isDigit cs).map fun _ => Numeral.leading cs

/-- A single character. -/
def single (c : Char) : Search
  | [] => none
  | d :: _ => if d = c then some [d] else none

end Search

/-- What is done about text that a search has found. -/
abbrev Handler : Type :=
  Search → ByteScanner → Option ByteScanner

namespace Handler

/-- Moves past the text. -/
def skip : Handler := fun search s => do
  let bytes ← s.matchedLength? search
  return s.advance bytes

/-- Slices the text off the remainder, records it as a number, and moves past it. -/
def number : Handler := fun search s => do
  let bytes ← s.matchedLength? search
  let rest ← s.remainder?
  let text ← Text.upTo? rest bytes
  return (s.push (.number text)).advance bytes

/-- Records an operator and moves by the length of its glyph. -/
def glyph (kind : Kind) (text : String) : Handler := fun _ s =>
  return (s.push ⟨kind, text⟩).advance text.utf8ByteSize

end Handler

/-- A search with the handler of what it finds. -/
structure Pattern where
  search : Search
  handler : Handler

namespace Pattern

/-- Blanks are skipped. -/
def blanks : Pattern :=
  ⟨Search.many Text.isBlank, Handler.skip⟩

/-- Numerals make number tokens. -/
def numeral : Pattern :=
  ⟨Search.numeral, Handler.number⟩

/-- A glyph makes an operator token. -/
def glyph (kind : Kind) (c : Char) : Pattern :=
  ⟨Search.single c, Handler.glyph kind (String.singleton c)⟩

/-- The patterns in the order in which they are tried. -/
def all : List Pattern :=
  [blanks, numeral, glyph .plus '+', glyph .minus '-', glyph .star '*', glyph .slash '/']

/-- The first pattern that finds something at the front of a text. -/
def first? (cs : List Char) : Option Pattern :=
  all.find? fun p => (p.search cs).isSome

end Pattern

/-! ## Rounds -/

namespace ByteScanner

/-- One round of scanning.  The first pattern that finds something handles it; where none does,
the first character after the position is reported. -/
def round (s : ByteScanner) : Option (Except Diagnostic ByteScanner) := do
  let rest ← s.remainder?
  match Pattern.first? rest.toList with
  | some p =>
      let next ← p.handler p.search s
      return .ok next
  | none =>
      let rest ← s.remainder?
      return .error (.unrecognised (rest.toList.head?.getD (Char.ofNat 0)))

/-- Rounds up to the end of the text or the first report, in a limited number. -/
def run (rounds : Nat) (s : ByteScanner) : Option (Except Diagnostic ByteScanner) :=
  if s.atEnd then
    some (.ok s)
  else
    match rounds with
    | 0 => none
    | rounds + 1 => do
        match ← s.round with
        | .error g => return .error g
        | .ok next => run rounds next

/-- The tokens of a source text, closed by the end sentinel, in no more rounds than the text has
characters. -/
def scan (source : String) : Option (Except Diagnostic (List Token)) := do
  let result ← run source.length (ofSource source)
  return result.map fun last => (last.push .eof).tokens

/-- The scanners at the heads of rounds: where the loop stands after a number of rounds that
reported nothing. -/
inductive Reaches (source : String) : Nat → ByteScanner → Prop
  | start : Reaches source 0 (ofSource source)
  | next {rounds : Nat} {s t : ByteScanner} (h : Reaches source rounds s)
      (hopen : s.atEnd = false) (hround : s.round = some (.ok t)) : Reaches source (rounds + 1) t

end ByteScanner

end Arith
