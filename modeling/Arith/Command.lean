import Arith.Production.Program

/-!
# The command

What the command does with its arguments: it scans and reads one expression
text, says how long each took, and shows the statements, or reports what is
wrong.  It is written over any terminal, so that the real one and a recorder run
the same code.

Main results:

- `Command.run`: the command over a terminal.
- `Command.transcript`: what it prints and how it exits, as a value.
-/

namespace Arith

/-- How the command ends. -/
inductive Exit where
  | success
  | failure
  | misuse
deriving DecidableEq

/-- The exit code of the process. -/
def Exit.code : Exit → UInt32
  | success => 0
  | failure => 1
  | misuse => 2

/-- Where the command prints, and where it takes the time from. -/
structure Terminal (m : Type → Type) where
  /-- Prints a text and a line feed. -/
  printLine : String → m Unit
  /-- The time since it was last asked for, as text. -/
  elapsed : m String

/-- What the command printed, text by text, and how it ended. -/
structure Transcript where
  printed : List String
  exit : Exit
deriving DecidableEq

/-- The whole output: every printed text with a line feed after it. -/
def Transcript.text (t : Transcript) : String :=
  String.join (t.printed.map (· ++ "\n"))

namespace Command

/-- The expression text that is used where none is given. -/
def defaultSource : String :=
  "2 + 5 * 2 - 3"

variable {m : Type → Type} [Monad m]

/-- Scans and reads a source text and prints what comes of it.  A text that
cannot be scanned is reported before any time is given. -/
def process (terminal : Terminal m) (source : String) : m Exit := do
  match Token.scan source with
  | .error d =>
      terminal.printLine d.report
      return .failure
  | .ok tokens =>
      terminal.printLine ("Tokenized in " ++ (← terminal.elapsed))
      match Program.ofTokens tokens with
      | .error d =>
          terminal.printLine d.report
          return .failure
      | .ok program =>
          terminal.printLine ("Parsed in " ++ (← terminal.elapsed))
          program.statements.forM fun s => terminal.printLine s.render
          return .success

/-- Runs the command under a given name: on its argument, or on the default
text if there is none.  More arguments than one are refused. -/
def run (terminal : Terminal m) (name : String) : List String → m Exit
  | [] => process terminal defaultSource
  | [source] => process terminal source
  | _ => do
      terminal.printLine ("Usage: " ++ name ++ " [EXPRESSION]")
      return .misuse

/-- A terminal that keeps what is printed, latest first, and on which every
span of time has the same text. -/
def recorder (time : String) : Terminal (StateM (List String)) where
  printLine text := modify (text :: ·)
  elapsed := pure time

/-- What the command prints and how it exits. -/
def transcript (time name : String) (args : List String) : Transcript :=
  let (exit, printed) := (run (recorder time) name args).run []
  ⟨printed.reverse, exit⟩

end Command

end Arith
