import ProfileShell.Failure

/-!
A line console: lines to be read, and the record of what was asked and printed.

Input is a list of lines and of readings that fail; where it is exhausted, input has ended.
-/

set_option autoImplicit false
set_option relaxedAutoImplicit false

namespace ProfileShell

inductive Input
  | line (text : String)
  | failure (fault : SystemFault)
  deriving DecidableEq

/-- What happens on a console. -/
inductive Exchange
  | read (prompt : String)
  | say (line : String)
  deriving DecidableEq

/-- The input still to be read and everything that has happened. -/
structure Console where
  pending : List Input
  transcript : List Exchange
  deriving DecidableEq

class HasConsole (C : Type) where
  console : C → Console
  withConsole : Console → C → C

instance : HasConsole Console where
  console c := c
  withConsole c _ := c

namespace Console

def ofInput (pending : List Input) : Console :=
  ⟨pending, []⟩

def record (c : Console) (e : Exchange) : Console :=
  { c with transcript := c.transcript ++ [e] }

variable {C : Type} [HasConsole C]

/-- Ask for a line. Nothing is answered at the end of input. -/
def readLine (prompt : String) : Task C (Option String) :=
  Task.within HasConsole.console HasConsole.withConsole do
    let c : Console ← get
    let asked := c.record (.read prompt)
    match c.pending with
    | [] =>
      set asked
      pure none
    | .line text :: rest =>
      set { asked with pending := rest }
      pure (some text)
    | .failure fault :: rest =>
      set { asked with pending := rest }
      throw (.system fault)

def say (line : String) : Task C Unit :=
  Task.within HasConsole.console HasConsole.withConsole
    (modify fun (c : Console) => c.record (.say line))

def sayAll : List String → Task C Unit
  | [] => pure ()
  | line :: lines => do
    say line
    sayAll lines

/-- The number of readings after which input has surely ended. -/
def readBound (c : C) : Nat :=
  (HasConsole.console c).pending.length + 1

end Console

end ProfileShell
