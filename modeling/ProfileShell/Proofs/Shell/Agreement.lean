import ProfileShell.Console.Question
import ProfileShell.Proofs.Command.Correspondence
import ProfileShell.Shell

/-!
Conversations that agree.

Contexts that hold the same console are asked and answered alike, and a loop over corresponding
registries reads and prints the same lines and ends for the same reason.
-/

set_option autoImplicit false
set_option relaxedAutoImplicit false

namespace ProfileShell

variable {C D : Type} [HasConsole C] [HasConsole D] {S : C → D → Prop}
  {Marked : LogRecord → Prop}

/-- Related contexts hold the same console, and stay related with another one. -/
structure Console.Shared (S : C → D → Prop) : Prop where
  console : ∀ s t, S s t → HasConsole.console s = HasConsole.console t
  withConsole : ∀ c s t, S s t → S (HasConsole.withConsole c s) (HasConsole.withConsole c t)

namespace Console

variable (shared : Shared S)
include shared

private theorem onConsole_agreesUntil {α : Type} (x : Task Console α) :
    Task.AgreesUntil Marked S (Task.within HasConsole.console HasConsole.withConsole x)
      (Task.within HasConsole.console HasConsole.withConsole x) := by
  have same : Task.Agrees Eq x x := by
    rintro s t rfl
    exact ⟨rfl, rfl⟩
  refine .within same.until shared.console ?_
  rintro s t c _ related rfl
  exact shared.withConsole c s t related

theorem say_agreesUntil (line : String) : Task.AgreesUntil Marked S (say line) (say line) :=
  onConsole_agreesUntil shared _

private theorem sayAll_agreesUntil (lines : List String) :
    Task.AgreesUntil Marked S (sayAll lines) (sayAll lines) := by
  induction lines with
  | nil => exact .pure _
  | cons line lines ih => exact .bind (say_agreesUntil shared line) fun _ => ih

private theorem readLine_agreesUntil (prompt : String) :
    Task.AgreesUntil Marked S (readLine prompt) (readLine prompt) :=
  onConsole_agreesUntil shared _

private theorem readBound_eq {s : C} {t : D} (related : S s t) : readBound s = readBound t := by
  unfold readBound
  rw [shared.console s t related]

theorem ask_agreesUntil {α : Type} {judge : String → Task C (Except String α)}
    {judge' : String → Task D (Except String α)}
    (judges : ∀ answer, Task.AgreesUntil Marked S (judge answer) (judge' answer)) :
    Task.AgreesUntil Marked S (ask judge) (ask judge') := by
  have within : ∀ bound,
      Task.AgreesUntil Marked S (askWithin judge bound) (askWithin judge' bound) := by
    intro bound
    induction bound with
    | zero => exact .pure _
    | succ bound ih =>
      unfold askWithin
      refine .bind (readLine_agreesUntil shared answerPrompt) fun answer => ?_
      cases answer with
      | none => exact .pure _
      | some text =>
        refine .bind (judges text) fun verdict => ?_
        cases verdict with
        | ok value => exact .pure _
        | error complaint => exact .bind (say_agreesUntil shared complaint) fun _ => ih
  refine .get_bind fun s t related => ?_
  rw [readBound_eq shared related]
  exact within _ s t related

end Console

omit [HasConsole C] [HasConsole D] in
private theorem Rendering.render_agreesUntil (reply : Reply) :
    Action.AgreesUntil Marked S (render reply) (render reply) := by
  unfold render
  cases linesOf? reply with
  | some lines => exact .pure _
  | none => exact .bind (.note _ _) fun _ => .pure _

namespace Shell

open Console (Shared)

private theorem answerLine_agreesUntil (shared : Shared S) {r : Registry C} {q : Registry D}
    (agrees : Registry.AgreesUntil Marked S r q) (line : String) :
    Task.AgreesUntil Marked S (answerLine r line) (answerLine q line) := by
  unfold answerLine
  refine .bind (.lift (Command.dispatch_agreesUntil agrees line)) fun reply => ?_
  refine .bind (.lift (Rendering.render_agreesUntil reply)) fun lines => ?_
  exact .bind (Console.sayAll_agreesUntil shared lines) fun _ => .pure _

/-- Loops over corresponding registries agree. -/
theorem run_agreesUntil (shared : Shared S) {r : Registry C} {q : Registry D}
    (agrees : Registry.AgreesUntil Marked S r q) (prompt : String) :
    Task.AgreesUntil Marked S (run r prompt) (run q prompt) := by
  have within : ∀ bound,
      Task.AgreesUntil Marked S (runWithin r prompt bound) (runWithin q prompt bound) := by
    intro bound
    induction bound with
    | zero => exact .pure _
    | succ bound ih =>
      unfold runWithin
      refine .bind (Console.readLine_agreesUntil shared prompt) fun answer => ?_
      cases answer with
      | none => exact .bind (.note _ _) fun _ => .pure _
      | some line =>
        refine .bind (answerLine_agreesUntil shared agrees line) fun reply => ?_
        split
        · exact .pure _
        · exact ih
  refine .get_bind fun s t related => ?_
  rw [Console.readBound_eq shared related]
  exact within _ s t related

end Shell

end ProfileShell
