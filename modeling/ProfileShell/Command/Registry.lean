import ProfileShell.Binding
import ProfileShell.Command.Reply
import ProfileShell.Text.Blank

/-!
Commands and the registry that finds them by name.

Names and aliases are compared without the blanks around them and without the case of ASCII
letters. The registry keeps commands in the order of their registration and an index from every
name to the position of its command.
-/

set_option autoImplicit false
set_option relaxedAutoImplicit false

namespace ProfileShell

/-- What a registry does with a command whose parameter types repeat those of another. -/
inductive OverlapPolicy
  | reject
  | warn
  | allow
  deriving DecidableEq

namespace Command

inductive Outcome
  | replied (reply : Reply)
  | failed (failure : Failure)
  /-- The handler broke off; what it left may be no text. -/
  | panicked (message : Option String)

end Command

abbrev Handler (C : Type) : Type :=
  Arguments → Action C Command.Outcome

/-- The handler that does a task; a failure of the task is a fault of the handler. -/
def Handler.ofTask {C : Type} (task : Arguments → Task C Reply) : Handler C := fun args => do
  match ← (task args).run with
  | .ok reply => pure (.replied reply)
  | .error failure => pure (.failed failure)

namespace Command

def normalize (name : String) : String :=
  Text.lowerAscii (Text.trim name)

def builtinNames : List String := ["help", "exit", "quit"]

end Command

/-- A named command with positional parameters and a handler. -/
structure Command (C : Type) where
  name : String
  aliases : List String
  summary : String
  parameters : List Parameter
  handler : Handler C

namespace Command

variable {C : Type}

def define (name : String) (aliases : List String) (parameters : List Parameter)
    (summary : String) (handler : Handler C) : Command C :=
  ⟨normalize name, aliases.map normalize, summary, parameters, handler⟩

def names (c : Command C) : List String :=
  c.name :: c.aliases

def usage (c : Command C) : String :=
  " ".intercalate (c.name :: c.parameters.map Parameter.usage)

def signature (c : Command C) : String :=
  if c.parameters.isEmpty then "()"
  else ", ".intercalate (c.parameters.map fun p => p.type.name)

/-- Two lists of parameters have types of the same kinds in the same order. -/
def sameKinds : List Parameter → List Parameter → Bool
  | [], [] => true
  | p :: ps, q :: qs => p.type.sameKind q.type && sameKinds ps qs
  | _, _ => false

def overlaps (c d : Command C) : Bool :=
  sameKinds c.parameters d.parameters

/-- The first parameter that repeats an earlier name, has an illegal fallback, or must be given
although an earlier one may be omitted. -/
def parameterFault (command : String) (seen : List String) (optionalSeen : Bool) :
    List Parameter → Option RegistrationError
  | [] => none
  | p :: ps =>
    if seen.contains p.name then some (.duplicateArgument command p.name)
    else if !p.fallbackIsValid then some (.invalidDefault command p.name)
    else if p.required && optionalSeen then some (.requiredAfterOptional command p.name)
    else parameterFault command (p.name :: seen) (optionalSeen || !p.required) ps

def fault (c : Command C) : Option RegistrationError :=
  if c.names.any String.isEmpty then some .emptyName
  else parameterFault c.name [] false c.parameters

end Command

/-- The registered commands, and for every name the position of its command. -/
structure Registry (C : Type) where
  policy : OverlapPolicy
  commands : List (Command C)
  index : TextMap Nat

namespace Registry

variable {C : Type}

def new (policy : OverlapPolicy) : Registry C :=
  ⟨policy, [], .empty⟩

/-- The first of some names that is built in, or is taken by a command or an earlier name. -/
def nameFault (r : Registry C) (seen : List String) : List String → Option RegistrationError
  | [] => none
  | name :: names =>
    if Command.builtinNames.contains name then some (.reservedName name)
    else if r.index.contains name || seen.contains name then some (.duplicateName name)
    else r.nameFault (name :: seen) names

def overlapping (r : Registry C) (c : Command C) : Option (Command C) :=
  r.commands.find? fun existing => existing.overlaps c

/-- The clash of signatures that the policy refuses. -/
def overlapFault (r : Registry C) (c : Command C) : Option RegistrationError :=
  match r.policy, r.overlapping c with
  | .reject, some existing => some (.overlappingSignature c.name existing.name c.signature)
  | _, _ => none

/-- The first fault for which a command is refused. -/
def fault (r : Registry C) (c : Command C) : Option RegistrationError :=
  c.fault.or ((r.nameFault [] c.names).or (r.overlapFault c))

/-- The registry with a command at the end, found by all its names. -/
def add (r : Registry C) (c : Command C) : Registry C :=
  { r with
    commands := r.commands ++ [c]
    index := c.names.foldl (fun index name => index.insert name r.commands.length) r.index }

/-- What the log says of an accepted command: a clash of signatures that is only warned of, and
the command itself. -/
def acceptedLog (r : Registry C) (c : Command C) : List LogRecord :=
  (match r.policy, r.overlapping c with
    | .warn, some existing =>
      [⟨.warn, s!"command '{c.name}' overlaps signature ({c.signature}) of " ++
        s!"command '{existing.name}'"⟩]
    | _, _ => []) ++
  [⟨.debug, s!"registered command '{c.name}' ({c.usage})"⟩]

/-- Register a command, or answer the first fault and leave the registry as it is. -/
def register (c : Command C) : ExceptT RegistrationError (Action (Registry C)) Unit :=
  fun r =>
    match r.fault c with
    | some e => ⟨.error e, r, []⟩
    | none => ⟨.ok (), r.add c, r.acceptedLog c⟩

/-- Register commands in order, up to the first that is refused. -/
def registerAll : List (Command C) → ExceptT RegistrationError (Action (Registry C)) Unit
  | [] => pure ()
  | c :: cs => do
    register c
    registerAll cs

def ofCommands (policy : OverlapPolicy) (commands : List (Command C)) :
    Run (Registry C) (Except RegistrationError Unit) :=
  Action.run (registerAll commands).run (new policy)

/-- Make a registry of commands; the first command that is refused is a failure. -/
def build {D : Type} (policy : OverlapPolicy) (commands : List (Command C)) :
    Task D (Registry C) := fun d =>
  let built := ofCommands policy commands
  match built.answer with
  | .ok () => ⟨.ok built.state, d, built.log⟩
  | .error e => ⟨.error (.registration e), d, built.log⟩

def lookup (r : Registry C) (name : String) : Option (Command C) :=
  (r.index.get? (Command.normalize name)).bind fun position => r.commands[position]?

/-- The names and aliases that start with a text, in ascending order. -/
def completions (r : Registry C) (partialName : String) : List String :=
  r.index.keys.filter fun name =>
    (Command.normalize partialName).toList.isPrefixOf name.toList

end Registry

end ProfileShell
