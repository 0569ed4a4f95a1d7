import ProfileShell.Command.Reply
import ProfileShell.Text.Lines

/-!
Replies as lines for a terminal.
-/

set_option autoImplicit false
set_option relaxedAutoImplicit false

namespace ProfileShell.Rendering

def textsOf (items : List Json) : List String :=
  items.filterMap Json.text?

def unknownLines (r : Reply) : List String :=
  let input := (r.text? "input").getD ""
  let suggestions := textsOf (((r.get? "suggestions").bind Json.items?).getD [])
  ["Unknown command: '" ++ input ++ "'."] ++
    (if suggestions.isEmpty then []
      else ["Did you mean: " ++ ", ".intercalate suggestions ++ "?"]) ++
    ["Use 'help' for a list of commands available."]

def invalidLines (r : Reply) : List String :=
  let command := (r.text? "command").getD ""
  let message := (r.text? Reply.messageField).getD "invalid arguments"
  ["Invalid input for '" ++ command ++ "': " ++ message ++ ".",
    "Use 'help " ++ command ++ "' for usage."]

def linesOf? (r : Reply) : Option (List String) :=
  let messageLines := Text.lines ((r.text? Reply.messageField).getD "")
  match r.kind with
  | "exit" => some []
  | "empty" => some []
  | "help" => some ([""] ++ Text.lines ((r.text? "content").getD "") ++ [""])
  | "unknown_command" => some (unknownLines r)
  | "invalid_argument" => some (invalidLines r)
  | "interrupted" => some ["Process interrupted."]
  | "success" => some messageLines
  | "failed" =>
    if r.text? "reason" = some Reply.internalError then
      let command := (r.text? "command").getD ""
      some ["Command '" ++ command ++ "' failed unexpectedly; see the log for details."]
    else some messageLines
  | _ => none

/-- The lines to print for a reply; a kind that is not known is named and noted in the log. -/
def render {σ : Type} (r : Reply) : Action σ (List String) :=
  match linesOf? r with
  | some lines => pure lines
  | none => do
    Action.note .warn s!"no renderer for result type '{r.kind}'"
    pure ["Unknown result type: " ++ r.kind]

end ProfileShell.Rendering
