import ProfileShell.Console.Basic
import ProfileShell.Text.Ascii
import ProfileShell.Text.Blank

/-!
Questions: ask until an answer will do.

Each answer that will not do is answered by a complaint. Questions end with the first answer that
will do, with a reading that fails, or with the input.
-/

set_option autoImplicit false
set_option relaxedAutoImplicit false

namespace ProfileShell.Console

variable {C : Type} [HasConsole C] {α : Type}

def answerPrompt : String := ":> "

def invalidAnswer : String := "Invalid format, try again."

/-- Ask at most some number of times. A judge makes a value or a complaint of an answer. -/
def askWithin (judge : String → Task C (Except String α)) : Nat → Task C (Option α)
  | 0 => pure none
  | bound + 1 => do
    match ← readLine answerPrompt with
    | none => pure none
    | some answer =>
      match ← judge answer with
      | .ok value => pure (some value)
      | .error complaint =>
        say complaint
        askWithin judge bound

/-- Ask until the judge makes a value of an answer, or input ends. -/
def ask (judge : String → Task C (Except String α)) : Task C (Option α) := do
  askWithin judge (readBound (← get))

def judgeNonblank (answer : String) : Except String String :=
  let text := Text.trim answer
  if text.isEmpty then .error invalidAnswer else .ok text

def judgeYesNo (answer : String) : Except String Bool :=
  let word := Text.lowerAscii (Text.trim answer)
  if word = "y" ∨ word = "yes" then .ok true
  else if word = "" ∨ word = "n" ∨ word = "no" then .ok false
  else .error invalidAnswer

def askNonblank : Task C (Option String) :=
  ask fun answer => pure (judgeNonblank answer)

def askYesNo : Task C (Option Bool) :=
  ask fun answer => pure (judgeYesNo answer)

end ProfileShell.Console
