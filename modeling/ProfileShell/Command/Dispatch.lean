import ProfileShell.Command.Line
import ProfileShell.Command.Registry

/-!
Dispatch of a line: find the command, bind its arguments, run its handler.

The names `help`, `exit` and `quit` are answered here. Whatever a handler does, a line is answered
by one reply; a fault of the handler is noted in the log and answered as an internal error.
-/

set_option autoImplicit false
set_option relaxedAutoImplicit false

namespace ProfileShell.Command

variable {C : Type}

/-- The character filling of a text to a width; longer texts stay as they are. -/
def padRight (width : Nat) (s : String) : String :=
  s ++ String.ofList (List.replicate (width - s.length) ' ')

def entryText (usage summary : String) : String :=
  if summary.isEmpty then "  - " ++ usage ++ "\n"
  else "  - " ++ padRight 28 usage ++ " " ++ summary ++ "\n"

def listing (r : Registry C) : String :=
  "Available commands:\n" ++
    String.join (r.commands.map fun c => entryText c.usage c.summary) ++
    entryText "help [command:str]" "Show commands or details for one command" ++
    entryText "exit" "Leave the current loop (alias: quit)" ++
    "\nType 'help <command>' for details."

def description (c : Command C) : String :=
  "Help for command '" ++ c.name ++ "':\n  Usage: " ++ c.usage ++
    (if c.aliases.isEmpty then "" else "\n  Aliases: " ++ ", ".intercalate c.aliases) ++
    (if c.summary.isEmpty then "" else "\n\n" ++ c.summary)

def helpDescription : String :=
  "Help for command 'help':\n  Usage: help [command:str]\n\n" ++
    "List the available commands or show help for one command."

def exitDescription : String :=
  "Help for command 'exit':\n  Usage: exit\n  Aliases: quit\n\nLeave the current loop."

def details (r : Registry C) (name : String) : Option String :=
  let normal := normalize name
  if normal = "help" then some helpDescription
  else if normal = "exit" ∨ normal = "quit" then some exitDescription
  else (r.lookup name).map description

def helpParameters : List Parameter :=
  [.optional "command" .text]

def helpReply (r : Registry C) (tokens : List String) : Reply :=
  match Arguments.bind helpParameters tokens with
  | .error e => .invalidArgument "help" e
  | .ok args =>
    match args.text? "command" with
    | none => .help (listing r)
    | some name =>
      (Reply.help ((details r name).getD ("No such command '" ++ name ++ "'"))).addText
        "command" name

def exitReply (name : String) (tokens : List String) : Reply :=
  match Arguments.bind [] tokens with
  | .error e => .invalidArgument name e
  | .ok _ => .exit

/-- The reply to a name that is not registered, with the names that continue it. -/
def unknownReply (r : Registry C) (input : String) : Reply :=
  let suggestions := r.completions (normalize input)
  if suggestions.isEmpty then .unknownCommand input
  else (Reply.unknownCommand input).add "suggestions" (.array (suggestions.map .text))

/-- Run a handler on bound arguments; a fault of the handler is answered as an internal error. -/
def invoke (c : Command C) (args : Arguments) : Action C Reply := do
  match ← c.handler args with
  | .replied reply => pure reply
  | .failed failure =>
    Action.note .error s!"command '{c.name}' failed: {failure.message}"
    pure (.handlerFault c.name)
  | .panicked message =>
    let text := message.getD "non-string panic payload"
    Action.note .error s!"command '{c.name}' panicked: {text}"
    pure (.handlerFault c.name)

def bindAndInvoke (c : Command C) (tokens : List String) : Action C Reply :=
  match Arguments.bind c.parameters tokens with
  | .ok args => do
    Action.note .debug s!"dispatching '{c.name}' with {args.size} argument(s)"
    invoke c args
  | .error e => do
    Action.note .warn s!"invalid arguments for '{c.name}': {e.message}"
    pure (.invalidArgument c.name e)

/-- Answer a line that has been split into words. -/
def dispatchLine (r : Registry C) (line : Line) : Action C Reply :=
  let name := normalize line.command
  if line.isEmpty then pure .empty
  else if name = "help" then pure (helpReply r line.arguments)
  else if name = "exit" ∨ name = "quit" then pure (exitReply name line.arguments)
  else
    match r.lookup name with
    | some c => bindAndInvoke c line.arguments
    | none => do
      Action.note .debug s!"unknown command '{line.command}'"
      pure (unknownReply r line.command)

def dispatch (r : Registry C) (text : String) : Action C Reply :=
  dispatchLine r (Line.ofText text)

end ProfileShell.Command
