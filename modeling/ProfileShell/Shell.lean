import ProfileShell.Command.Dispatch
import ProfileShell.Console.Basic
import ProfileShell.Rendering

/-!
The loop that reads a line, dispatches it and prints the reply.
-/

set_option autoImplicit false
set_option relaxedAutoImplicit false

namespace ProfileShell.Shell

inductive LoopEnd
  | exit
  | endOfInput
  deriving DecidableEq

def LoopEnd.name : LoopEnd → String
  | .exit => "Exit"
  | .endOfInput => "EndOfInput"

variable {C : Type} [HasConsole C]

def answerLine (r : Registry C) (line : String) : Task C Reply := do
  let reply ← ExceptT.lift (Command.dispatch r line)
  let lines ← ExceptT.lift (Rendering.render reply)
  Console.sayAll lines
  pure reply

/-- Read and answer at most some number of lines. -/
def runWithin (r : Registry C) (prompt : String) : Nat → Task C LoopEnd
  | 0 => pure .endOfInput
  | bound + 1 => do
    match ← Console.readLine prompt with
    | none =>
      Task.note .debug "end of input"
      pure .endOfInput
    | some line =>
      let reply ← answerLine r line
      if reply.isExit then pure .exit else runWithin r prompt bound

/-- Read and answer lines until a reply is an exit, input ends or a reading fails. -/
def run (r : Registry C) (prompt : String) : Task C LoopEnd := do
  runWithin r prompt (Console.readBound (← get))

end ProfileShell.Shell
