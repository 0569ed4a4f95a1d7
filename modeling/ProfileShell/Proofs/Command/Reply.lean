import ProfileShell.Command.Reply

/-!
The kinds and the fields of the replies that the program makes.
-/

set_option autoImplicit false
set_option relaxedAutoImplicit false

namespace ProfileShell.Reply

@[simp] theorem kind_ofKind (kind : String) : (ofKind kind).kind = kind := rfl

@[simp] theorem kind_add (r : Reply) (name : String) (value : Json) :
    (r.add name value).kind = r.kind := by
  unfold add
  split <;> rfl

@[simp] theorem kind_addText (r : Reply) (name value : String) :
    (r.addText name value).kind = r.kind :=
  kind_add r name _

@[simp] theorem kind_success : success.kind = "success" := rfl

@[simp] theorem kind_interrupted : interrupted.kind = "interrupted" := rfl

@[simp] theorem kind_help (content : String) : (help content).kind = "help" := by
  simp [help]

@[simp] theorem kind_unknownCommand (input : String) :
    (unknownCommand input).kind = "unknown_command" := by
  simp [unknownCommand]

@[simp] theorem kind_invalidArgument (command : String) (error : BindError) :
    (invalidArgument command error).kind = "invalid_argument" := by
  simp [invalidArgument]

@[simp] theorem kind_handlerFault (command : String) :
    (handlerFault command).kind = "failed" := by
  simp [handlerFault, failed]

@[simp] theorem kind_failedWith (message : String) : (failedWith message).kind = "failed" := by
  simp [failedWith, failed]

@[simp] theorem kind_succeededWith (message : String) :
    (succeededWith message).kind = "success" := by
  simp [succeededWith]

theorem get?_add (r : Reply) {name : String} (free : name ≠ kindField) (value : Json)
    (other : String) :
    (r.add name value).get? other = if other = name then some value else r.get? other := by
  rw [add, if_neg free]
  exact TextMap.get?_insert r.fields name other value

theorem toJson_handlerFault (command : String) :
    (handlerFault command).toJson =
      .object [("type", .text "failed"), ("command", .text command),
        ("reason", .text "internal_error")] := by
  rfl

end ProfileShell.Reply
