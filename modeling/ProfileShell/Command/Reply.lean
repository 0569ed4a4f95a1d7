import ProfileShell.Failure
import ProfileShell.Json.Parser
import ProfileShell.Json.Printer

/-!
The tagged reply that every dispatch answers.

A reply has a kind and named fields. Its JSON form is one flat object whose field `type` holds the
kind, so no field of a reply may have that name.
-/

set_option autoImplicit false
set_option relaxedAutoImplicit false

namespace ProfileShell

structure Reply where
  kind : String
  fields : TextMap Json
  deriving DecidableEq

namespace Reply

def kindField : String := "type"

def messageField : String := "message"

def internalError : String := "internal_error"

def ofKind (kind : String) : Reply :=
  ⟨kind, .empty⟩

/-- The reply with a field set; the name of the kind is no field and is ignored. -/
def add (r : Reply) (name : String) (value : Json) : Reply :=
  if name = kindField then r else { r with fields := r.fields.insert name value }

def addText (r : Reply) (name value : String) : Reply :=
  r.add name (.text value)

/-- Set a field of the reply at hand; an attempt to set the kind is noted in the log. -/
def attach (name : String) (value : Json) : Action Reply Unit := do
  let r ← get
  if name = kindField then
    Action.note .warn s!"ignoring auxiliary field named 'type' on '{r.kind}' result"
  else set (r.add name value)

def exit : Reply := ofKind "exit"

def success : Reply := ofKind "success"

def failed : Reply := ofKind "failed"

def interrupted : Reply := ofKind "interrupted"

def empty : Reply := ofKind "empty"

def help (content : String) : Reply :=
  (ofKind "help").addText "content" content

def unknownCommand (input : String) : Reply :=
  (ofKind "unknown_command").addText "input" input

/-- The reply to tokens that do not fit, with the bind error as an object and as a text. -/
def invalidArgument (command : String) (error : BindError) : Reply :=
  (((ofKind "invalid_argument").addText "command" command).add "reason"
    (.ofMap (.ofList error.fields))).addText messageField error.message

def handlerFault (command : String) : Reply :=
  (failed.addText "reason" internalError).addText "command" command

def failedWith (message : String) : Reply :=
  failed.addText messageField message

def succeededWith (message : String) : Reply :=
  success.addText messageField message

def isExit (r : Reply) : Bool :=
  r.kind == "exit"

def get? (r : Reply) (name : String) : Option Json :=
  r.fields.get? name

def text? (r : Reply) (name : String) : Option String :=
  (r.get? name).bind Json.text?

/-- The JSON form: the kind first, then the fields in the order of their names. -/
def toJson (r : Reply) : Json :=
  .object ((kindField, .text r.kind) :: r.fields.entries)

/-- The reply of a JSON tree: an object with exactly one kind, which is a text. -/
def ofRaw? : Json.Raw → Option Reply
  | .object fields => do
    let fields ← fields.mapM fun (field : Option String × Json.Raw) =>
      match field.1, field.2.toJson? (Json.maxDepth - 1) with
      | some name, some value => some (name, value)
      | _, _ => none
    let (kinds, others) := fields.partition fun field => field.1 == kindField
    match kinds with
    | [(_, .text kind)] => some ⟨kind, .ofList others⟩
    | _ => none
  | _ => none

def parse (s : String) : Except Failure Reply :=
  match (Json.Raw.parse? s).bind ofRaw? with
  | some r => .ok r
  | none => .error .json

end Reply

end ProfileShell
