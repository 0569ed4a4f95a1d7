import ProfileShell.Action
import ProfileShell.Json.Basic
import ProfileShell.Text.Quoted

/-!
Everything that can go wrong, as causes, with one message for each.

Registration errors stop a program at its start; bind errors answer what a user typed; a `Failure`
is any fault of a handler, a store, the settings or the system.
-/

set_option autoImplicit false
set_option relaxedAutoImplicit false

namespace ProfileShell

/-- Why a command cannot be registered. -/
inductive RegistrationError
  | duplicateName (name : String)
  | overlappingSignature (command existing signature : String)
  | reservedName (name : String)
  | emptyName
  | duplicateArgument (command argument : String)
  | invalidDefault (command argument : String)
  | requiredAfterOptional (command argument : String)
  deriving DecidableEq

/-- Why the tokens of a line do not fit the parameters of a command. -/
inductive BindError
  | missingArgument (argument : String)
  | invalidArgument (argument token expected : String)
  | tooManyArguments (expected given : Nat)
  deriving DecidableEq

/-- Why the system could not do something with a file or a console. -/
inductive SystemFault
  | noSuchEntry
  | entryExists
  | notDirectory
  | isDirectory
  | nameTooLong
  | nulInName
  | notUtf8
  | reported (text : String)
  deriving DecidableEq

/-- Why a record store refuses. -/
inductive StoreFault
  | emptyIdentifier
  | invalidIdentifier (id : String)
  | noSuchRecord (id : String)
  | identifierTaken (id : String)
  | wrongRecordType (expected found : String)
  | refused (operation : String)
  | reported (text : String)
  deriving DecidableEq

/-- Any fault that a computation can end with. -/
inductive Failure
  | registration (error : RegistrationError)
  | bind (error : BindError)
  | handler (text : String)
  | store (fault : StoreFault)
  | config (text : String)
  | system (fault : SystemFault)
  | tomlRead
  | tomlWrite
  | json
  deriving DecidableEq

def RegistrationError.message : RegistrationError → String
  | .duplicateName name => s!"duplicate command name: {name}"
  | .overlappingSignature command existing signature =>
    s!"command '{command}' overlaps signature ({signature}) of command '{existing}'"
  | .reservedName name => s!"'{name}' is a built-in command"
  | .emptyName => "command name must not be empty"
  | .duplicateArgument command argument =>
    s!"command '{command}' declares argument '{argument}' more than once"
  | .invalidDefault command argument =>
    s!"default of argument '{argument}' in command '{command}' does not match its type"
  | .requiredAfterOptional command argument =>
    s!"required argument '{argument}' in command '{command}' follows an optional one"

def BindError.message : BindError → String
  | .missingArgument argument => s!"missing argument '{argument}'"
  | .invalidArgument argument token expected =>
    s!"invalid value '{token}' for argument '{argument}' (expected {expected})"
  | .tooManyArguments expected given =>
    s!"too many arguments: expected at most {expected}, got {given}"

def BindError.argument? : BindError → Option String
  | .missingArgument argument => some argument
  | .invalidArgument argument _ _ => some argument
  | .tooManyArguments _ _ => none

def BindError.fields : BindError → List (String × Json)
  | .missingArgument argument =>
    [("kind", .text "missing_argument"), ("argument", .text argument)]
  | .invalidArgument argument token expected =>
    [("kind", .text "invalid_argument"), ("argument", .text argument), ("token", .text token),
      ("expected", .text expected)]
  | .tooManyArguments expected given =>
    [("kind", .text "too_many_arguments"), ("expected", .int expected), ("given", .int given)]

def SystemFault.message : SystemFault → String
  | .noSuchEntry => "No such file or directory (os error 2)"
  | .entryExists => "File exists (os error 17)"
  | .notDirectory => "Not a directory (os error 20)"
  | .isDirectory => "Is a directory (os error 21)"
  | .nameTooLong => "File name too long (os error 36)"
  | .nulInName => "file name contained an unexpected NUL byte"
  | .notUtf8 => "stream did not contain valid UTF-8"
  | .reported text => text

def StoreFault.message : StoreFault → String
  | .emptyIdentifier => "profile id must not be empty"
  | .invalidIdentifier id =>
    let shown := Text.quoted id
    s!"invalid profile id: {shown}"
  | .noSuchRecord id => s!"no such record: {id}"
  | .identifierTaken id => s!"profile id taken: {id}"
  | .wrongRecordType expected found => s!"expected record type '{expected}', got '{found}'"
  | .refused operation => s!"{operation} refused"
  | .reported text => text

def Failure.message : Failure → String
  | .registration error => "registration error: " ++ error.message
  | .bind error => "bind error: " ++ error.message
  | .handler text => "handler error: " ++ text
  | .store fault => "store error: " ++ fault.message
  | .config text => "config error: " ++ text
  | .system fault => "I/O error: " ++ fault.message
  | .tomlRead => "TOML parse error"
  | .tomlWrite => "TOML write error"
  | .json => "JSON error"

abbrev Task (σ α : Type) : Type :=
  ExceptT Failure (Action σ) α

namespace Task

variable {σ γ α : Type}

def note (level : Level) (text : String) : Task σ Unit :=
  ExceptT.lift (Action.note level text)

def attempt (x : Task σ α) : Task σ (Except Failure α) :=
  ExceptT.lift x.run

def within (part : γ → σ) (replace : σ → γ → γ) (x : Task σ α) : Task γ α :=
  ExceptT.mk (Action.within part replace x.run)

def ofExcept (x : Except Failure α) : Task σ α :=
  ExceptT.mk (pure x)

def runOn (x : Task σ α) (s : σ) : Run σ (Except Failure α) :=
  Action.run x.run s

end Task

end ProfileShell
