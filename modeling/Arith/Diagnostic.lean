import Arith.Text.Quoted
import Arith.Token

/-!
# Diagnostics

What can be wrong with arithmetic source text or with a token sequence, and how
it is reported.

Main results:

- `Fault`: the four causes, with the text and kind at fault.
- `Fault.message`, `Fault.tip?`: the wording of a cause and of its suggestion.
- `Diagnostic`: a cause with the token it points at, if there is one.
- `Diagnostic.report`: the lines shown to a user.
-/

namespace Arith

/-- The causes of failure.  A character that starts no lexeme, a statement that
does not start with a number, a missing operand, and a token sequence that is
not closed. -/
inductive Fault where
  | unrecognisedToken (text : String)
  | unknownOperand (text : String) (kind : Kind)
  | illegalExpression (text : String) (kind : Kind)
  | missingEof
deriving DecidableEq

namespace Fault

/-- The name under which a cause is reported. -/
def name : Fault → String
  | unrecognisedToken _ => "UnrecognisedToken"
  | unknownOperand _ _ => "UnknownOperand"
  | illegalExpression _ _ => "IllegalExpression"
  | missingEof => "MissingEof"

/-- A cause in one line, with the text at fault quoted. -/
def message : Fault → String
  | unrecognisedToken text => "unrecognised token: " ++ Text.quote text
  | unknownOperand text kind =>
      "unknown operand: " ++ Text.quote text ++ " (" ++ kind.name ++ ")"
  | illegalExpression text kind =>
      "illegal expression: expected a number, found " ++ Text.quote text ++
        " (" ++ kind.name ++ ")"
  | missingEof => "token sequence does not end with EOF"

/-- A suggestion to the user, with the text at fault as it is.  Nothing is
suggested for a character that starts no lexeme. -/
def tip? : Fault → Option String
  | unrecognisedToken _ => none
  | unknownOperand text _ =>
      some ("Unknown operand: `" ++ text ++ "`, statements must start with a number")
  | illegalExpression _ .eof =>
      some "Input ended where a number was expected, is there a trailing operator?"
  | illegalExpression text _ =>
      some ("Expected a number, found `" ++ text ++ "`, are two operators adjacent?")
  | missingEof => some "Token sequences must finish with an EOF token"

end Fault

/-- A cause of failure with the token it points at.  The token need not be the
one whose text and kind the cause names. -/
structure Diagnostic where
  fault : Fault
  token : Option Token
deriving DecidableEq

/-- Results are compared by what they hold. -/
instance instDecidableEqResult {α : Type} [DecidableEq α] :
    DecidableEq (Except Diagnostic α)
  | .ok a, .ok b => decidable_of_iff (a = b) (by simp)
  | .error d, .error e => decidable_of_iff (d = e) (by simp)
  | .ok _, .error _ => isFalse (by simp)
  | .error _, .ok _ => isFalse (by simp)

namespace Diagnostic

/-- The character `c` starts no lexeme; there is no token to point at. -/
def unrecognised (c : Char) : Diagnostic :=
  ⟨.unrecognisedToken (String.singleton c), none⟩

/-- A statement cannot start with the token `t`. -/
def unknownOperand (t : Token) : Diagnostic :=
  ⟨.unknownOperand t.value t.kind, some t⟩

/-- A number was expected where the token `t` stands. -/
def illegalExpression (t : Token) : Diagnostic :=
  ⟨.illegalExpression t.value t.kind, some t⟩

/-- A token sequence is not closed; there is no token to point at. -/
def missingEof : Diagnostic :=
  ⟨.missingEof, none⟩

/-- The first line of a report: the cause's name, with its tip in brackets. -/
def headline (d : Diagnostic) : String :=
  match d.fault.tip? with
  | none => "Error: " ++ d.fault.name
  | some tip => "Error: " ++ d.fault.name ++ " (" ++ tip ++ ")"

/-- What a report points at: the token, or the message where there is no token. -/
def subject (d : Diagnostic) : String :=
  match d.token with
  | some t => t.render
  | none => d.fault.message

/-- The report of a diagnostic: its headline, and on a new line what it points at. -/
def report (d : Diagnostic) : String :=
  d.headline ++ "\n-> " ++ d.subject

end Diagnostic

end Arith
