import ProfileShell.Failure
import ProfileShell.Value

/-!
Parameters of commands, and the binding of a line's tokens to them by position.
-/

set_option autoImplicit false
set_option relaxedAutoImplicit false

namespace ProfileShell

structure Parameter where
  name : String
  type : ValueType
  required : Bool
  /-- The value of an omitted optional argument. -/
  fallback : Option Value
  deriving DecidableEq

namespace Parameter

def needed (name : String) (type : ValueType) : Parameter :=
  ⟨name, type, true, none⟩

def optional (name : String) (type : ValueType) : Parameter :=
  ⟨name, type, false, none⟩

def fallbackIsValid (p : Parameter) : Bool :=
  match p.fallback with
  | some v => p.type.accepts v
  | none => true

/-- The parameter in a usage line, in angle brackets if its token must be given. -/
def usage (p : Parameter) : String :=
  if p.required then "<" ++ p.name ++ ":" ++ p.type.display ++ ">"
  else "[" ++ p.name ++ ":" ++ p.type.display ++ "]"

end Parameter

abbrev Arguments : Type :=
  TextMap Value

namespace Arguments

def integer? (args : Arguments) (name : String) : Option Int64 :=
  match args.get? name with
  | some (.integer i) => some i
  | _ => none

def number? (args : Arguments) (name : String) : Option Binary64 :=
  match args.get? name with
  | some (.number x) => some x
  | _ => none

def text? (args : Arguments) (name : String) : Option String :=
  match args.get? name with
  | some (.text s) => some s
  | _ => none

def boolean? (args : Arguments) (name : String) : Option Bool :=
  match args.get? name with
  | some (.boolean b) => some b
  | _ => none

def toJson (args : Arguments) : Json :=
  .ofMap (args.map Value.toJson)

/-- Put the values of tokens and fallbacks into `bound`, parameter by parameter. -/
def bindFrom (bound : Arguments) : List Parameter → List String → Except BindError Arguments
  | [], _ => .ok bound
  | p :: ps, token :: tokens =>
    match p.type.coerce token with
    | some v => bindFrom (bound.insert p.name v) ps tokens
    | none => .error (.invalidArgument p.name token p.type.display)
  | p :: ps, [] =>
    if p.required then .error (.missingArgument p.name)
    else
      match p.fallback with
      | some v => bindFrom (bound.insert p.name v) ps []
      | none => bindFrom bound ps []

/-- Bind tokens to parameters by position. The first fault is answered; a surplus of tokens is
found last. -/
def bind (parameters : List Parameter) (tokens : List String) : Except BindError Arguments :=
  match bindFrom .empty parameters tokens with
  | .error e => .error e
  | .ok bound =>
    if parameters.length < tokens.length then
      .error (.tooManyArguments parameters.length tokens.length)
    else .ok bound

end Arguments

end ProfileShell
