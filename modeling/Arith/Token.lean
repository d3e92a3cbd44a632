/-!
# Tokens

The vocabulary of arithmetic source text: numerals, the four operators, and the
sentinel that closes every token sequence.

Main results:

- `Kind`, `Token`: what a lexical unit is, and the text it was made from.
- `Kind.ofGlyph?_eq_some_iff`: an operator kind and its glyph determine each other.
- `Token.render`: the one-line form in which a diagnostic points at a token.
-/

namespace Arith

/-- The kinds of token: the end of input, a numeral, and the four operators. -/
inductive Kind where
  | eof
  | number
  | plus
  | minus
  | star
  | slash
deriving DecidableEq

namespace Kind

/-- The name under which a kind is shown. -/
def name : Kind → String
  | eof => "EOF"
  | number => "Number"
  | plus => "Plus"
  | minus => "Minus"
  | star => "Star"
  | slash => "Slash"

/-- The glyph of an operator kind; the other kinds have none. -/
def glyph? : Kind → Option Char
  | plus => some '+'
  | minus => some '-'
  | star => some '*'
  | slash => some '/'
  | eof | number => none

/-- The operator kind that a character spells. -/
def ofGlyph? : Char → Option Kind
  | '+' => some plus
  | '-' => some minus
  | '*' => some star
  | '/' => some slash
  | _ => none

/-- Whether the kind is one of the four binary operators. -/
def isOperator (k : Kind) : Bool :=
  k.glyph?.isSome

/-- A character spells an operator kind exactly when it is that kind's glyph. -/
theorem ofGlyph?_eq_some_iff {c : Char} {k : Kind} :
    ofGlyph? c = some k ↔ k.glyph? = some c := by
  constructor
  · intro h
    unfold ofGlyph? at h
    split at h <;> cases h <;> rfl
  · intro h
    cases k <;> simp [glyph?] at h <;> subst h <;> rfl

/-- Distinct kinds are shown under distinct names. -/
theorem name_inj {a b : Kind} : a.name = b.name ↔ a = b := by
  cases a <;> cases b <;> simp [name]

end Kind

/-- A lexical unit: its kind and the text it stands for.  The text of a token
made by hand is arbitrary and need not fit the kind. -/
structure Token where
  kind : Kind
  value : String
deriving DecidableEq

namespace Token

/-- The sentinel that closes every token sequence. -/
def eof : Token :=
  ⟨.eof, "EOF"⟩

/-- The token of a numeral. -/
def number (value : String) : Token :=
  ⟨.number, value⟩

@[simp]
theorem eof_kind : eof.kind = .eof :=
  rfl

@[simp]
theorem number_kind (value : String) : (number value).kind = .number :=
  rfl

@[simp]
theorem number_value (value : String) : (number value).value = value :=
  rfl

/-- A token is shown with its kind's name and its raw text. -/
def render (t : Token) : String :=
  "Token \x7b kind: " ++ t.kind.name ++ ", value: " ++ t.value ++ " \x7d"

end Token

end Arith
