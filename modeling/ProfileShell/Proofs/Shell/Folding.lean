import ProfileShell.Proofs.Shell

/-!
A loop is a fold of dispatch.

Where no handler uses the console, a loop answers the lines at hand one after another, each in the
context that the lines before it left, up to the first one that is answered by an exit. Nothing else
changes the context, and on the console the reading of a line is followed by the lines printed for
it. So a loop over more input goes on as another loop would from the context reached.
-/

set_option autoImplicit false
set_option relaxedAutoImplicit false

namespace ProfileShell

open HasConsole (console withConsole)
open LawfulConsole (console_withConsole withConsole_withConsole withConsole_console)

variable {C α β : Type} [HasConsole C]

/-- The action does not use the console: it does the same with any other one, which it leaves. -/
def Action.Silent (x : Action C α) : Prop :=
  ∀ c s, x.run (withConsole c s) =
    ⟨(x.run s).answer, withConsole c (x.run s).state, (x.run s).log⟩

namespace Task

private theorem runOn_pure {σ : Type} (a : α) (s : σ) :
    (pure a : Task σ α).runOn s = ⟨.ok a, s, []⟩ := rfl

private theorem runOn_lift_of_run {σ : Type} {x : Action σ α} {s t : σ} {a : α}
    {log : List LogRecord}
    (ran : x.run s = ⟨a, t, log⟩) : Task.runOn (ExceptT.lift x) s = ⟨.ok a, t, log⟩ := by
  change Action.run (Except.ok <$> x) s = _
  rw [map_eq_pure_bind, Action.run_bind, ran]
  exact congrArg (Run.mk _ _) (List.append_nil _)

end Task

namespace Action.Silent

private theorem pure (a : α) : Action.Silent (Pure.pure a : Action C α) :=
  fun _ _ => rfl

private theorem note (level : Level) (text : String) :
    (Action.note level text : Action C Unit).Silent :=
  fun _ _ => rfl

private theorem bind {x : Action C α} {f : α → Action C β} (first : x.Silent)
    (second : ∀ a, (f a).Silent) : (x >>= f).Silent := by
  intro c s
  rw [Action.run_bind, Action.run_bind, first c s]
  dsimp only
  rw [second _ c]

private theorem within {σ : Type} {part : C → σ} {replace : σ → C → C} (x : Action σ α)
    (apart : ∀ c s, part (withConsole c s) = part s)
    (beside : ∀ t c s, replace t (withConsole c s) = withConsole c (replace t s)) :
    (Action.within part replace x).Silent := by
  intro c s
  change Run.mk (x.run (part (withConsole c s))).answer
    (replace (x.run (part (withConsole c s))).state (withConsole c s))
    (x.run (part (withConsole c s))).log = _
  rw [apart, beside]
  rfl

end Action.Silent

def Registry.Silent (r : Registry C) : Prop :=
  ∀ c ∈ r.commands, ∀ args, (c.handler args).Silent

variable {r : Registry C} {prompt : String}

namespace Command

private theorem invoke_silent {c : Command C} (silent : ∀ args, (c.handler args).Silent)
    (args : Arguments) : (invoke c args).Silent := by
  unfold invoke
  refine .bind (silent args) fun outcome => ?_
  cases outcome with
  | replied reply => exact .pure reply
  | failed failure => exact .bind (.note _ _) fun _ => .pure _
  | panicked message => exact .bind (.note _ _) fun _ => .pure _

private theorem dispatch_silent (silent : r.Silent) (text : String) : (dispatch r text).Silent := by
  rcases dispatch_cases r text with ⟨reply, log, answered⟩ | ⟨c, member, args, called⟩
  · intro console s
    rw [answered, answered]
  · rw [called]
    exact .bind (.note _ _) fun _ => invoke_silent (silent c member) args

end Command

private theorem Rendering.render_silent (reply : Reply) :
    (render reply : Action C (List String)).Silent := by
  unfold render
  cases linesOf? reply with
  | some lines => exact .pure lines
  | none => exact .bind (.note _ _) fun _ => .pure _

namespace Shell

structure Response where
  reply : Reply
  printed : List String

def respond (r : Registry C) (line : String) : Action C Response := do
  let reply ← Command.dispatch r line
  let printed ← Rendering.render reply
  pure ⟨reply, printed⟩

def respondAll (r : Registry C) : List String → Action C (List Response)
  | [] => pure []
  | line :: lines => do
    let response ← respond r line
    let responses ← respondAll r lines
    pure (response :: responses)

/-- What happens on the console when a line is read and answered. -/
def exchangesOf (prompt : String) (response : Response) : List Exchange :=
  .read prompt :: response.printed.map .say

/-- The lines that can be read before a reading fails. -/
def linesAtHand : List Input → List String
  | .line text :: rest => text :: linesAtHand rest
  | _ => []

/-- The lines up to the first one that is answered by an exit, where each is answered in the context
that the lines before it left. -/
def untilExit (r : Registry C) : C → List String → List String
  | _, [] => []
  | s, line :: lines =>
    let run := Action.run (Command.dispatch r line) s
    line :: if run.answer.isExit then [] else untilExit r run.state lines

/-- How a loop ends after its lines: at once after an exit, or else by one more reading, of a
failure or of the end of input. It leaves some input and adds to the transcript and the log. -/
inductive Closing (prompt : String) : Bool → List Input →
    Except Failure LoopEnd → List Input → List Exchange → List LogRecord → Prop
  | exit (unread : List Input) : Closing prompt true unread (.ok .exit) unread [] []
  | failure (fault : SystemFault) (unread : List Input) :
      Closing prompt false (.failure fault :: unread) (.error (.system fault)) unread
        [.read prompt] []
  | endOfInput :
      Closing prompt false [] (.ok .endOfInput) [] [.read prompt] [⟨.debug, "end of input"⟩]

omit [HasConsole C] in
private theorem run_respond (r : Registry C) (line : String) (s : C) :
    Action.run (respond r line) s =
      let dispatched := Action.run (Command.dispatch r line) s
      let rendered := Action.run (Rendering.render dispatched.answer) dispatched.state
      ⟨⟨dispatched.answer, rendered.answer⟩, dispatched.state, dispatched.log ++ rendered.log⟩ := by
  unfold respond
  rw [Action.run_bind, Action.run_bind, Action.run_pure, Rendering.state_render, List.append_nil]

omit [HasConsole C] in
private theorem run_respondAll_cons (r : Registry C) (line : String) (lines : List String) (s : C) :
    Action.run (respondAll r (line :: lines)) s =
      let first := Action.run (respond r line) s
      let later := Action.run (respondAll r lines) first.state
      ⟨first.answer :: later.answer, later.state, first.log ++ later.log⟩ := by
  rw [respondAll, Action.run_bind, Action.run_bind, Action.run_pure, List.append_nil]

omit [HasConsole C] in
private theorem state_respondAll (r : Registry C) (lines : List String) (s : C) :
    (Action.run (respondAll r lines) s).state =
      lines.foldl (fun t line => (Action.run (Command.dispatch r line) t).state) s := by
  induction lines generalizing s with
  | nil => rfl
  | cons line lines ih =>
    rw [run_respondAll_cons, run_respond]
    exact ih _

variable [LawfulConsole C]

private theorem runOn_readLine_withConsole (prompt : String) (pending : List Input)
    (transcript : List Exchange) (s : C) :
    (Console.readLine prompt).runOn (withConsole ⟨pending, transcript⟩ s) =
      ⟨Console.nextAnswer pending,
        withConsole ⟨pending.tail, transcript ++ [.read prompt]⟩ s, []⟩ := by
  rw [Console.runOn_readLine, console_withConsole, withConsole_withConsole]
  rfl

private theorem runOn_sayAll (lines : List String) (c : Console) (s : C) :
    (Console.sayAll lines).runOn (withConsole c s) =
      ⟨.ok (), withConsole ⟨c.pending, c.transcript ++ lines.map .say⟩ s, []⟩ := by
  induction lines generalizing c with
  | nil =>
    rw [List.map_nil, List.append_nil]
    rfl
  | cons line lines ih =>
    have first := Console.runOn_say line (withConsole c s)
    rw [console_withConsole, withConsole_withConsole] at first
    rw [Console.sayAll, Task.runOn_bind_of_ok first, ih]
    simp [Console.record]

private theorem runOn_answerLine (silent : r.Silent) (line : String) (c : Console) (s : C) :
    (answerLine r line).runOn (withConsole c s) =
      let run := Action.run (respond r line) s
      ⟨.ok run.answer.reply,
        withConsole ⟨c.pending, c.transcript ++ run.answer.printed.map .say⟩ run.state,
        run.log⟩ := by
  have dispatched := Command.dispatch_silent silent line c s
  rw [run_respond]
  generalize Action.run (Command.dispatch r line) s = d at dispatched ⊢
  have rendered := Rendering.render_silent d.answer c d.state
  have unchanged := Rendering.state_render d.answer d.state
  unfold answerLine
  rw [Task.runOn_bind_of_ok (Task.runOn_lift_of_run dispatched),
    Task.runOn_bind_of_ok (Task.runOn_lift_of_run rendered), unchanged,
    Task.runOn_bind_of_ok (runOn_sayAll _ c d.state)]
  simp only [Task.runOn_pure, List.append_nil]

/-- One turn of a loop: a line is read and answered, and the loop goes on unless that was an
exit. -/
private theorem runOn_turn (silent : r.Silent) (prompt line : String) (rest : List Input)
    (transcript : List Exchange) (bound : Nat) (s : C) :
    (runWithin r prompt (bound + 1)).runOn (withConsole ⟨.line line :: rest, transcript⟩ s) =
      let run := Action.run (respond r line) s
      let next := withConsole ⟨rest, transcript ++ exchangesOf prompt run.answer⟩ run.state
      if run.answer.reply.isExit then ⟨.ok .exit, next, run.log⟩
      else
        let later := (runWithin r prompt bound).runOn next
        ⟨later.answer, later.state, run.log ++ later.log⟩ := by
  have read : (Console.readLine prompt).runOn (withConsole ⟨.line line :: rest, transcript⟩ s) =
      ⟨.ok (some line), withConsole ⟨rest, transcript ++ [.read prompt]⟩ s, []⟩ :=
    runOn_readLine_withConsole prompt (.line line :: rest) transcript s
  have answered := runOn_answerLine silent line ⟨rest, transcript ++ [.read prompt]⟩ s
  have exchanged : ∀ response : Response,
      transcript ++ [.read prompt] ++ response.printed.map .say =
        transcript ++ exchangesOf prompt response := by
    intro response
    rw [List.append_assoc]
    rfl
  simp only [exchanged] at answered
  rw [runWithin, Task.runOn_bind_of_ok read]
  dsimp only
  rw [Task.runOn_bind_of_ok answered]
  dsimp only
  split
  · rw [Task.runOn_pure, List.append_nil]
    rfl
  · rfl

private theorem runOn_runWithin_append (silent : r.Silent) (prompt : String) (xs : List String)
    (ys : List Input) (transcript : List Exchange) (bound : Nat) (s : C)
    (stays : ∀ response ∈ (Action.run (respondAll r xs) s).answer,
      response.reply.isExit = false) :
    (runWithin r prompt (xs.length + bound)).runOn
        (withConsole ⟨xs.map .line ++ ys, transcript⟩ s) =
      let run := Action.run (respondAll r xs) s
      let later := (runWithin r prompt bound).runOn
        (withConsole ⟨ys, transcript ++ run.answer.flatMap (exchangesOf prompt)⟩ run.state)
      ⟨later.answer, later.state, run.log ++ later.log⟩ := by
  induction xs generalizing s transcript with
  | nil => simp [respondAll]
  | cons line xs ih =>
    rw [run_respondAll_cons] at stays ⊢
    obtain ⟨first, later⟩ := List.forall_mem_cons.mp stays
    have goesOn : ¬(Action.run (respond r line) s).answer.reply.isExit = true := by
      rw [first]
      exact Bool.false_ne_true
    rw [List.length_cons, Nat.succ_add, List.map_cons, List.cons_append,
      runOn_turn silent prompt line]
    simp only [if_neg goesOn, ih _ _ later, List.flatMap_cons, List.append_assoc]

private theorem runOn_runWithin_nil (r : Registry C) (prompt : String) (transcript : List Exchange)
    (bound : Nat) (s : C) :
    (runWithin r prompt (bound + 1)).runOn (withConsole ⟨[], transcript⟩ s) =
      ⟨.ok .endOfInput, withConsole ⟨[], transcript ++ [.read prompt]⟩ s,
        [⟨.debug, "end of input"⟩]⟩ := by
  have read : (Console.readLine prompt).runOn (withConsole ⟨[], transcript⟩ s) =
      ⟨.ok none, withConsole ⟨[], transcript ++ [.read prompt]⟩ s, []⟩ :=
    runOn_readLine_withConsole prompt [] transcript s
  rw [runWithin, Task.runOn_bind_of_ok read]
  rfl

private theorem runOn_runWithin_failure (r : Registry C) (prompt : String) (fault : SystemFault)
    (rest : List Input) (transcript : List Exchange) (bound : Nat) (s : C) :
    (runWithin r prompt (bound + 1)).runOn (withConsole ⟨.failure fault :: rest, transcript⟩ s) =
      ⟨.error (.system fault), withConsole ⟨rest, transcript ++ [.read prompt]⟩ s, []⟩ := by
  have read : (Console.readLine prompt).runOn
      (withConsole ⟨.failure fault :: rest, transcript⟩ s) =
      ⟨.error (.system fault), withConsole ⟨rest, transcript ++ [.read prompt]⟩ s, []⟩ :=
    runOn_readLine_withConsole prompt (.failure fault :: rest) transcript s
  rw [runWithin, Task.runOn_bind_of_error read]

private theorem runOn_run (r : Registry C) (prompt : String) (c : Console) (s : C) :
    (run r prompt).runOn (withConsole c s) =
      (runWithin r prompt (c.pending.length + 1)).runOn (withConsole c s) := by
  unfold run
  rw [Task.runOn_get_bind, Console.readBound, console_withConsole]

def endsWithExit (responses : List Response) : Bool :=
  responses.getLast?.any fun response => response.reply.isExit

omit [HasConsole C] [LawfulConsole C] in
private theorem endsWithExit_cons (response : Response) (responses : List Response)
    (stays : response.reply.isExit = false) :
    endsWithExit (response :: responses) = endsWithExit responses := by
  unfold endsWithExit
  rw [List.getLast?_cons]
  cases responses.getLast? with
  | none => exact stays
  | some last => rfl

/-- How a loop over a console runs: it answers the lines at hand up to an exit, and then ends. -/
def Folds (r : Registry C) (prompt : String) (c : Console) (s : C)
    (ran : Run C (Except Failure LoopEnd)) : Prop :=
  let lines := untilExit r s (linesAtHand c.pending)
  let answered := Action.run (respondAll r lines) s
  ∃ unread outcome left last log,
    c.pending = lines.map .line ++ unread ∧
    Closing prompt (endsWithExit answered.answer) unread outcome left last log ∧
    ran = ⟨outcome, withConsole ⟨left, c.transcript ++
      answered.answer.flatMap (exchangesOf prompt) ++ last⟩ answered.state, answered.log ++ log⟩

private theorem runWithin_folds (silent : r.Silent) (prompt : String) (pending : List Input)
    (transcript : List Exchange) (s : C) :
    Folds r prompt ⟨pending, transcript⟩ s
      ((runWithin r prompt (pending.length + 1)).runOn (withConsole ⟨pending, transcript⟩ s)) := by
  induction pending generalizing transcript s with
  | nil =>
    refine ⟨[], _, _, _, _, rfl, .endOfInput, ?_⟩
    rw [List.length_nil, runOn_runWithin_nil]
    simp [linesAtHand, untilExit, respondAll]
  | cons input rest ih =>
    cases input with
    | failure fault =>
      refine ⟨_, _, _, _, _, rfl, .failure fault rest, ?_⟩
      rw [runOn_runWithin_failure]
      simp [linesAtHand, untilExit, respondAll]
    | line line =>
      have turn := runOn_turn silent prompt line rest transcript (rest.length + 1) s
      have responded := run_respond r line s
      have dispatched : (Action.run (respond r line) s).answer.reply =
          (Action.run (Command.dispatch r line) s).answer := by rw [responded]
      have state : (Action.run (respond r line) s).state =
          (Action.run (Command.dispatch r line) s).state := by rw [responded]
      rw [List.length_cons, turn]
      unfold Folds
      simp only [linesAtHand, untilExit, ← dispatched, ← state, run_respondAll_cons]
      generalize Action.run (respond r line) s = first
      cases leaves : first.answer.reply.isExit with
      | true =>
        refine ⟨rest, .ok .exit, rest, [], [], rfl, ?_, ?_⟩
        · have exits : endsWithExit [first.answer] = true := leaves
          simpa only [if_true, respondAll, Action.run_pure, exits] using Closing.exit rest
        · simp [respondAll]
      | false =>
        obtain ⟨unread, outcome, left, last, log, pending, closes, later⟩ :=
          ih (transcript ++ exchangesOf prompt first.answer) first.state
        refine ⟨unread, outcome, left, last, log, ?_, ?_, ?_⟩
        · exact congrArg (Input.line line :: ·) pending
        · rw [endsWithExit_cons _ _ leaves]
          exact closes
        · simp only [Bool.false_eq_true, if_false, later, List.flatMap_cons, List.append_assoc]

/-- Where the handlers of a registry do not use the console, a loop answers the lines up to the
first exit, the first reading that fails or the end of input, each once and in order. The context
at its end is the fold of dispatch over those lines, and each reading of a line is followed by what
is printed for that line. A loop over lines without an exit and more input does what a loop over
those lines and then a loop over the rest do, less the reading that finds the end of those lines. -/
theorem run_folds_dispatch (silent : r.Silent) (prompt : String) (s : C) :
    (∀ c, Folds r prompt c s ((run r prompt).runOn (withConsole c s))) ∧
      (∀ lines, (Action.run (respondAll r lines) s).state =
        lines.foldl (fun t line => (Action.run (Command.dispatch r line) t).state) s) ∧
      ∀ (xs : List String) (ys : List Input) (transcript : List Exchange),
        (∀ response ∈ (Action.run (respondAll r xs) s).answer, response.reply.isExit = false) →
        ∃ t said log,
          (run r prompt).runOn (withConsole ⟨xs.map .line, transcript⟩ s) =
            ⟨.ok .endOfInput, withConsole ⟨[], said ++ [.read prompt]⟩ t,
              log ++ [⟨.debug, "end of input"⟩]⟩ ∧
          let second := (run r prompt).runOn (withConsole ⟨ys, said⟩ t)
          (run r prompt).runOn (withConsole ⟨xs.map .line ++ ys, transcript⟩ s) =
            ⟨second.answer, second.state, log ++ second.log⟩ := by
  refine ⟨?_, fun lines => state_respondAll r lines s, ?_⟩
  · intro c
    rw [runOn_run]
    exact runWithin_folds silent prompt c.pending c.transcript s
  · intro xs ys transcript stays
    have ahead := fun rest bound =>
      runOn_runWithin_append silent prompt xs rest transcript bound s stays
    have none := ahead [] 1
    have more := ahead ys (ys.length + 1)
    rw [List.append_nil] at none
    refine ⟨(Action.run (respondAll r xs) s).state,
      transcript ++ (Action.run (respondAll r xs) s).answer.flatMap (exchangesOf prompt),
      (Action.run (respondAll r xs) s).log, ?_, ?_⟩
    · rw [runOn_run, List.length_map, none]
      dsimp only
      rw [runOn_runWithin_nil]
    · rw [runOn_run, runOn_run, List.length_append, List.length_map, Nat.add_assoc, more]

structure TalkingTally where
  console : Console
  tally : Tally
  deriving DecidableEq

instance : HasConsole TalkingTally where
  console := TalkingTally.console
  withConsole console t := { t with console }

instance : LawfulConsole TalkingTally where
  console_withConsole _ _ := rfl
  withConsole_withConsole _ _ _ := rfl
  withConsole_console _ := rfl

namespace TalkingTally

def handler (behaviour : Tally.Behaviour) : Handler TalkingTally := fun args =>
  Action.within TalkingTally.tally (fun tally t => { t with tally }) (Tally.handler behaviour args)

def registry : Registry TalkingTally :=
  (Registry.ofCommands .allow
    [.define "add" [] [.needed "amount" .integer] "" (handler (.add "amount")),
      .define "crash" [] [] "" (handler (.panic none)),
      .define "leave" [] [] "" (handler (.reply (some .exit) []))]).state

private theorem registry_silent : registry.Silent := by
  intro c member args
  have silent : ∀ behaviour, (handler behaviour args).Silent := fun behaviour =>
    Action.Silent.within _ (fun _ _ => rfl) fun _ _ _ => rfl
  have listed := Registry.mem_of_mem_ofCommands member
  simp only [List.mem_cons, List.not_mem_nil, or_false] at listed
  rcases listed with rfl | rfl | rfl <;> exact silent _

end TalkingTally

theorem run_folds_dispatch_talkingTally :
    let r := TalkingTally.registry
    let s : TalkingTally := ⟨.ofInput [], .zero⟩
    let c := Console.ofInput [.line "add 2", .line "crash", .line "leave", .line "add 40"]
    r.Silent ∧
      (∀ response ∈ (Action.run (respondAll r ["add 2", "crash"]) s).answer,
        response.reply.isExit = false) ∧
      Folds r "> " c s ((run r "> ").runOn (withConsole c s)) ∧
      (∃ t said log,
        (run r "> ").runOn (withConsole ⟨[.line "add 2", .line "crash"], []⟩ s) =
          ⟨.ok .endOfInput, withConsole ⟨[], said ++ [.read "> "]⟩ t,
            log ++ [⟨.debug, "end of input"⟩]⟩ ∧
        let second := (run r "> ").runOn (withConsole ⟨[.line "leave", .line "add 40"], said⟩ t)
        (run r "> ").runOn (withConsole c s) =
          ⟨second.answer, second.state, log ++ second.log⟩) ∧
      ((run r "> ").runOn (withConsole c s)).state =
        ⟨⟨[.line "add 40"],
          [.read "> ", .say "Unknown result type: numerical", .read "> ",
            .say "Command 'crash' failed unexpectedly; see the log for details.", .read "> "]⟩,
          ⟨3, 2⟩⟩ := by
  intro r s c
  have silent : r.Silent := TalkingTally.registry_silent
  have stays : ∀ response ∈ (Action.run (respondAll r ["add 2", "crash"]) s).answer,
      response.reply.isExit = false := by
    decide +kernel
  obtain ⟨folds, -, append⟩ := run_folds_dispatch silent "> " s
  exact ⟨silent, stays, folds c,
    append ["add 2", "crash"] [.line "leave", .line "add 40"] [] stays, by decide +kernel⟩

end Shell

end ProfileShell
