import Arith.Command
import Arith.Duration

/-!
# The executable

Runs the command on the process's arguments, with the console as its terminal
and the monotonic clock for its times.
-/

namespace Arith

/-- The console, with a clock that starts now. -/
def consoleTerminal : IO (Terminal IO) := do
  let last ← IO.mkRef (← IO.monoNanosNow)
  return {
    printLine := IO.println
    elapsed := do
      let now ← IO.monoNanosNow
      let span ← last.modifyGet fun before => (now - before, now)
      return Duration.render span }

end Arith

/-- Runs the command and gives the exit code of the process. -/
def main (args : List String) : IO UInt32 := do
  let exit ← Arith.Command.run (← Arith.consoleTerminal) "arith" args
  return exit.code
