import ProfileShell.Proofs.Command.Invocation
import ProfileShell.Proofs.Console.Questions
import ProfileShell.Shell

/-!
Loops keep what their handlers keep.

Between the handlers a loop only talks on its console. An invariant of the context that does not
depend on the console and is kept by every handler holds whenever the loop has ended.
-/

set_option autoImplicit false
set_option relaxedAutoImplicit false

namespace ProfileShell

variable {C : Type} {I : C → Prop}

def Handler.Keeps (I : C → Prop) (handler : Handler C) : Prop :=
  ∀ args s, I s → I (Action.run (handler args) s).state

theorem Handler.run_ofTask (task : Arguments → Task C Reply) (args : Arguments) (s : C) :
    Action.run (Handler.ofTask task args) s =
      ⟨match ((task args).runOn s).answer with
        | .ok reply => .replied reply
        | .error failure => .failed failure,
        ((task args).runOn s).state, ((task args).runOn s).log⟩ := by
  unfold Handler.ofTask Task.runOn
  rw [Action.run_bind]
  cases (Action.run (task args).run s).answer with
  | ok reply => simp only [Action.run_pure, List.append_nil]
  | error failure => simp only [Action.run_pure, List.append_nil]

theorem Handler.keeps_ofTask {task : Arguments → Task C Reply}
    (keeps : ∀ args, (task args).Keeps I fun _ => True) : Handler.Keeps I (.ofTask task) := by
  intro args s holds
  rw [Handler.run_ofTask]
  exact (keeps args).state holds

namespace Registry

def Keeps (I : C → Prop) (r : Registry C) : Prop :=
  ∀ c ∈ r.commands, Handler.Keeps I c.handler

theorem runOn_build_of_ok {D : Type} {policy : OverlapPolicy} {cs : List (Command C)}
    (accepted : (ofCommands policy cs).answer = .ok ()) (d : D) :
    (build policy cs : Task D (Registry C)).runOn d =
      ⟨.ok (ofCommands policy cs).state, d, (ofCommands policy cs).log⟩ := by
  unfold build Task.runOn ExceptT.run Action.run
  simp only [accepted]

theorem runOn_build_of_error {D : Type} {policy : OverlapPolicy} {cs : List (Command C)}
    {e : RegistrationError} (refused : (ofCommands policy cs).answer = .error e) (d : D) :
    (build policy cs : Task D (Registry C)).runOn d =
      ⟨.error (.registration e), d, (ofCommands policy cs).log⟩ := by
  unfold build Task.runOn ExceptT.run Action.run
  simp only [refused]

theorem build_keeps {D : Type} {J : D → Prop} (policy : OverlapPolicy) {cs : List (Command C)}
    (handlers : ∀ c ∈ cs, Handler.Keeps I c.handler) :
    (build policy cs : Task D (Registry C)).Keeps J (Keeps I) := by
  intro s holds
  have found : Keeps I (ofCommands policy cs).state := fun c member =>
    handlers c (mem_of_mem_ofCommands member)
  unfold Task.Ensures Task.runOn build
  dsimp only [ExceptT.run, Action.run]
  cases (ofCommands policy cs).answer with
  | error e => exact ⟨holds, fun _ impossible => by cases impossible⟩
  | ok _ =>
    refine ⟨holds, ?_⟩
    rintro _ ⟨⟩
    exact found

end Registry

namespace Command

private theorem dispatch_keeps {r : Registry C} (keeps : r.Keeps I) (text : String) {s : C}
    (holds : I s) : I (Action.run (dispatch r text) s).state := by
  rcases dispatch_cases r text with ⟨reply, log, answered⟩ | ⟨c, member, args, called⟩
  · rw [answered]
    exact holds
  · rw [called, Action.run_bind, (run_invoke c args _).2]
    exact keeps c member args s holds

end Command

theorem Rendering.state_render (reply : Reply) (s : C) :
    (Action.run (render reply) s).state = s := by
  unfold render
  cases linesOf? reply <;> rfl

namespace Shell

open Console (Indifferent)

variable [HasConsole C]

private theorem answerLine_keeps (indifferent : Indifferent I) {r : Registry C} (keeps : r.Keeps I)
    (line : String) : (answerLine r line).Keeps I fun _ => True := by
  have rendered : ∀ reply, Task.Keeps (α := List String) I
      (ExceptT.lift (Rendering.render reply)) fun _ => True := by
    intro reply
    refine Task.Keeps.lift fun s holds => ?_
    rw [Rendering.state_render]
    exact holds
  have dispatched : Task.Keeps (α := Reply) I (ExceptT.lift (Command.dispatch r line))
      fun _ => True := by
    exact Task.Keeps.lift fun s holds => Command.dispatch_keeps keeps line holds
  unfold answerLine
  refine Task.Keeps.bind dispatched fun reply _ => ?_
  refine Task.Keeps.bind (rendered reply) fun lines _ => ?_
  refine Task.Keeps.bind (Console.sayAll_keeps indifferent lines) fun _ _ => ?_
  exact Task.Keeps.pure trivial

/-- A loop keeps an invariant that its handlers keep and its console does not touch. -/
theorem run_keeps (indifferent : Indifferent I) {r : Registry C} (keeps : r.Keeps I)
    (prompt : String) : (run r prompt).Keeps I fun _ => True := by
  have within : ∀ bound, (runWithin r prompt bound).Keeps I fun _ => True := by
    intro bound
    induction bound with
    | zero => exact Task.Keeps.pure trivial
    | succ bound ih =>
      unfold runWithin
      refine Task.Keeps.bind (Console.readLine_keeps indifferent prompt) fun answer _ => ?_
      cases answer with
      | none => exact Task.Keeps.bind Task.Keeps.note fun _ _ => Task.Keeps.pure trivial
      | some line =>
        refine Task.Keeps.bind (answerLine_keeps indifferent keeps line) fun reply _ => ?_
        split
        · exact Task.Keeps.pure trivial
        · exact ih
  exact Task.Keeps.bind Task.Keeps.get fun s _ => within (Console.readBound s)

end Shell

end ProfileShell
