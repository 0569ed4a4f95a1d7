import ProfileShell.Command.Dispatch

/-!
A small host for commands: its context counts the calls of handlers and keeps a running total.

Its handlers show every way a handler can end, after the call has been counted.
-/

set_option autoImplicit false
set_option relaxedAutoImplicit false

namespace ProfileShell

structure Tally where
  calls : Nat
  total : Int64
  deriving DecidableEq

namespace Tally

def zero : Tally := ⟨0, 0⟩

inductive Behaviour
  | add (argument : String)
  | addThenFail (argument : String)
  | fail (text : String)
  | panic (message : Option String)
  /-- Set the fields of a base reply in order and reply it; without a base, fail. -/
  | reply (base : Option Reply) (fields : List (String × Json))
  /-- Reply the arguments. -/
  | echo

def count : Action Tally Unit :=
  modify fun t => { t with calls := t.calls + 1 }

def addArgument (args : Arguments) (argument : String) : Action Tally Int64 := do
  modify fun t => { t with total := t.total + (args.integer? argument).getD 0 }
  return (← get).total

def build (base : Reply) (fields : List (String × Json)) : Action Reply Reply := do
  set base
  for field in fields do
    Reply.attach field.1 field.2
  get

def handler (behaviour : Behaviour) : Handler Tally := fun args => do
  count
  match behaviour with
  | .add argument =>
    let total ← addArgument args argument
    pure (.replied ((Reply.ofKind "numerical").add "total" (.int total.toInt)))
  | .addThenFail argument =>
    let total ← addArgument args argument
    pure (.failed (.handler s!"failed at {total.toInt}"))
  | .fail text => pure (.failed (.handler text))
  | .panic message => pure (.panicked message)
  | .reply (some base) fields =>
    let reply ← Action.within (fun _ => base) (fun _ t => t) (build base fields)
    pure (.replied reply)
  | .reply none _ => pure (.failed (.config "bad"))
  | .echo => pure (.replied (Reply.success.add "args" args.toJson))

end Tally

end ProfileShell
