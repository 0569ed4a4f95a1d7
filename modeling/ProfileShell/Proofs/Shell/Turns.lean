import ProfileShell.Proofs.Command.Invocation
import ProfileShell.Proofs.Console.Consumption
import ProfileShell.Proofs.Shell

/-!
The turns of a loop.

A loop takes turns, in each of which it reads a line at its own prompt and answers it, and ends with
one more reading there: of a line that is answered by an exit, of the end of input, or of a failure.
Handlers may read as well. If each of them has at most `k` idle readings, a loop has at most
`k + 1`: after an idle reading of a handler, the loop's own next reading ends it.
-/

set_option autoImplicit false
set_option relaxedAutoImplicit false

namespace ProfileShell

open HasConsole (console withConsole)
open ProfileShell.Console (Advances idleOf nextAnswer heard said)
open ProfileShell.Task (Consumes Still Ensures)

variable {C : Type} [HasConsole C] {k : Nat}

def Handler.Consumes (k : Nat) (handler : Handler C) : Prop :=
  ∀ args s, ∃ idle, idle ≤ k ∧
    Advances (console s) (console (Action.run (handler args) s).state) idle

theorem Handler.consumes_ofTask {task : Arguments → Task C Reply}
    (consumes : ∀ args, (task args).Consumes fun _ idle => idle ≤ k) :
    Handler.Consumes k (.ofTask task) := by
  intro args s
  obtain ⟨idle, advances, few⟩ := consumes args s
  rw [Handler.run_ofTask]
  exact ⟨idle, few, advances⟩

theorem Registry.build_consumes {D : Type} (policy : OverlapPolicy) (cs : List (Command D)) :
    (build policy cs : Task C (Registry D)).Consumes fun answer idle =>
      idle = 0 ∧ ∀ r, answer = .ok r → r = (ofCommands policy cs).state := by
  intro s
  unfold Ensures Task.runOn build
  dsimp only [ExceptT.run, Action.run]
  cases (ofCommands policy cs).answer with
  | error e => exact ⟨0, Advances.refl _, rfl, fun _ impossible => by cases impossible⟩
  | ok _ =>
    refine ⟨0, Advances.refl _, rfl, ?_⟩
    rintro _ ⟨⟩
    rfl

structure Registry.Consumes (k : Nat) (r : Registry C) : Prop where
  sound : r.Sound
  handlers : ∀ c ∈ r.commands, Handler.Consumes k c.handler

namespace Shell

variable {r : Registry C} {prompt : String}

private theorem dispatch_advances (consumes : r.Consumes k) (line : String) (s : C) :
    ∃ idle, idle ≤ k ∧
      Advances (console s) (console (Action.run (Command.dispatch r line) s).state) idle := by
  cases called : Command.call? r line with
  | none =>
    obtain ⟨reply, log, -, unchanged⟩ := Command.run_dispatch_of_not_call r called
    rw [unchanged s]
    exact ⟨0, Nat.zero_le k, Advances.refl _⟩
  | some call =>
    obtain ⟨c, args⟩ := call
    rw [(Command.run_dispatch_of_call consumes.sound called s).2]
    obtain ⟨_, _, _, registered, _⟩ :=
      (Command.call?_eq_some_iff_of_sound consumes.sound line c args).mp called
    exact consumes.handlers c registered args s

def round (r : Registry C) (prompt : String) (again : Task C LoopEnd) : Task C LoopEnd := do
  match ← Console.readLine prompt with
  | none =>
    Task.note .debug "end of input"
    pure .endOfInput
  | some line =>
    let reply ← answerLine r line
    if reply.isExit then pure .exit else again

/-- The lines of a loop's turns, and the context that they lead to. -/
inductive Turns (r : Registry C) (prompt : String) : C → List String → C → Prop
  | nil (s : C) : Turns r prompt s [] s
  | cons {s t u : C} {line : String} {lines : List String} {reply : Reply}
      (read : nextAnswer (console s).pending = .ok (some line))
      (answered : (answerLine r line).Ensures (heard prompt s) fun answer after =>
        answer = .ok reply ∧ after = t)
      (stays : reply.isExit = false) (later : Turns r prompt t lines u) :
      Turns r prompt s (line :: lines) u

/-- How a loop ends by what it reads last. -/
inductive EndsWith (r : Registry C) (prompt : String) (last : C) :
    Except Failure LoopEnd → C → Prop
  | exit {t : C} {line : String} {reply : Reply}
      (read : nextAnswer (console last).pending = .ok (some line))
      (answered : (answerLine r line).Ensures (heard prompt last) fun answer after =>
        answer = .ok reply ∧ after = t)
      (leaves : reply.isExit = true) : EndsWith r prompt last (.ok .exit) t
  | endOfInput (read : nextAnswer (console last).pending = .ok none) :
      EndsWith r prompt last (.ok .endOfInput) (heard prompt last)
  | failure {e : Failure} (read : nextAnswer (console last).pending = .error e) :
      EndsWith r prompt last (.error e) (heard prompt last)

/-- What a loop reads at its own prompt: the lines of its turns, and once more in the end. -/
def ownReadings (lines : List String) (last : C) : List (Except Failure (Option String)) :=
  lines.map (fun line => .ok (some line)) ++ [nextAnswer (console last).pending]

theorem line_mem_ownReadings (lines : List String) (last : C) (line : String) :
    .ok (some line) ∈ ownReadings lines last ↔
      line ∈ lines ∨ nextAnswer (console last).pending = .ok (some line) := by
  simp [ownReadings, eq_comm]

theorem none_mem_ownReadings (lines : List String) (last : C) :
    .ok none ∈ ownReadings lines last ↔ nextAnswer (console last).pending = .ok none := by
  simp [ownReadings, eq_comm]

theorem error_mem_ownReadings (lines : List String) (last : C) (e : Failure) :
    .error e ∈ ownReadings lines last ↔ nextAnswer (console last).pending = .error e := by
  simp [ownReadings, eq_comm]

theorem answerLine_ensures (r : Registry C) (line : String) (s : C) :
    let run := Action.run (Command.dispatch r line) s
    (answerLine r line).Ensures s fun answer t =>
      answer = .ok run.answer ∧
        ∃ lines : List String, t = lines.foldl (fun s line => said line s) run.state ∧
          (run.answer = .exit → lines = []) := by
  intro run
  have unchanged := Rendering.state_render run.answer run.state
  have silent : run.answer = .exit →
      (Action.run (Rendering.render run.answer) run.state).answer = [] := by
    intro exit
    rw [exit]
    rfl
  unfold answerLine
  refine Ensures.lift_bind (Ensures.lift_bind ?_)
  rw [unchanged]
  refine Ensures.bind (Console.sayAll_ensures _ run.state) ?_ ?_
  · rintro _ _ ⟨-, rfl⟩
    exact Ensures.pure ⟨rfl, _, rfl, silent⟩
  · rintro e _ ⟨impossible, -⟩
    cases impossible

variable [LawfulConsole C]

private theorem answerLine_consumes (consumes : r.Consumes k) (line : String) :
    (answerLine r line).Consumes fun answer idle => idle ≤ k ∧ ∃ reply, answer = .ok reply := by
  intro s
  obtain ⟨idle, few, advances⟩ := dispatch_advances consumes line s
  refine (answerLine_ensures r line s).mono ?_
  rintro _ _ ⟨rfl, lines, rfl, -⟩
  exact ⟨idle, advances.trans (Console.advances_saidAll lines _), few, _, rfl⟩

private theorem round_takesInput (consumes : r.Consumes k) :
    Console.TakesInput (round r prompt) := by
  refine Console.takesInput_of_readLine (fun _ _ => rfl) ?_
  intro x y line s agree
  apply Task.runOn_bind_congr
  refine (answerLine_consumes consumes line s).mono ?_
  rintro _ t ⟨idle, advances, -⟩ reply rfl
  by_cases leaves : reply.isExit = true
  · rw [if_pos leaves, if_pos leaves]
  · rw [if_neg leaves, if_neg leaves]
    exact agree t advances.length_le

/-- A loop goes on until a reading or a reply ends it: the bound on its turns never does. -/
theorem run_eq (consumes : r.Consumes k) (prompt : String) :
    run r prompt = round r prompt (run r prompt) :=
  Console.bounded_eq_round (round_takesInput consumes) fun _ => rfl

private theorem runWithin_turns (consumes : r.Consumes k) (prompt : String) (bound : Nat) {s : C}
    (enough : (console s).pending.length < bound) :
    (runWithin r prompt bound).Ensures s fun answer t =>
      ∃ lines last, Turns r prompt s lines last ∧ EndsWith r prompt last answer t := by
  induction bound generalizing s with
  | zero => exact absurd enough (Nat.not_lt_zero _)
  | succ bound ih =>
    unfold runWithin
    refine Ensures.bind (Console.readLine_ensures prompt s) ?_ ?_
    · rintro answer _ ⟨answered, rfl⟩
      cases answer with
      | none =>
        exact Ensures.step (t := heard prompt s) (w := [_]) rfl
          (Ensures.pure ⟨[], s, .nil s, .endOfInput answered.symm⟩)
      | some line =>
        have fewer := Console.length_heard_lt prompt answered.symm
        have same : (answerLine r line).Ensures (heard prompt s) fun answer t =>
            (answerLine r line).Ensures (heard prompt s) fun a after => a = answer ∧ after = t :=
          ⟨rfl, rfl⟩
        refine Ensures.bind (same.and (answerLine_consumes consumes line (heard prompt s))) ?_ ?_
        · rintro reply t ⟨ran, _, advances, -⟩
          have left := advances.length_le
          by_cases leaves : reply.isExit = true
          · rw [if_pos leaves]
            exact Ensures.pure ⟨[], s, .nil s, .exit answered.symm ran leaves⟩
          · rw [if_neg leaves]
            refine (ih (by omega)).mono ?_
            rintro answer u ⟨lines, last, turns, ends⟩
            have stays : reply.isExit = false := by simpa using leaves
            exact ⟨line :: lines, last, .cons answered.symm ran stays turns, ends⟩
        · rintro e t ⟨-, _, -, -, reply, impossible⟩
          cases impossible
    · rintro e _ ⟨answered, rfl⟩
      exact ⟨[], s, .nil s, .failure answered.symm⟩

/-- A loop takes its turns and then ends by what it reads. -/
theorem run_turns (consumes : r.Consumes k) (prompt : String) (s : C) :
    (run r prompt).Ensures s fun answer t =>
      ∃ lines last, Turns r prompt s lines last ∧ EndsWith r prompt last answer t := by
  have bounded := runWithin_turns consumes prompt (Console.readBound s) (Nat.lt_succ_self _)
  exact Ensures.step (w := []) rfl bounded

/-- The idle readings of the line that was read in `s`. -/
private theorem answered_advances (consumes : r.Consumes k) {s t : C} {line : String}
    {reply : Reply} (read : nextAnswer (console s).pending = .ok (some line))
    (answered : (answerLine r line).Ensures (heard prompt s) fun answer after =>
      answer = .ok reply ∧ after = t) :
    ∃ idle, idle ≤ k ∧ Advances (console s) (console t) idle := by
  obtain ⟨idle, advances, few, -⟩ := answerLine_consumes consumes line (heard prompt s)
  have first := Console.advances_heard prompt s
  rw [read] at first
  obtain ⟨-, rfl⟩ := answered
  have all := first.trans advances
  rw [show idleOf (.ok (some line)) = 0 from rfl, Nat.zero_add] at all
  exact ⟨idle, few, all⟩

private theorem Turns.advances (consumes : r.Consumes k) {s last : C} {lines : List String}
    (turns : Turns r prompt s lines last) :
    ∃ idle, idle ≤ k ∧ Advances (console s) (console last) idle := by
  induction turns with
  | nil s => exact ⟨0, Nat.zero_le k, Advances.refl _⟩
  | cons read answered stays later ih =>
    obtain ⟨idle, few, first⟩ := answered_advances consumes read answered
    cases later with
    | nil => exact ⟨idle, few, first⟩
    | cons next _ _ _ =>
      -- Another line was there to be read, so the handler has left some input.
      have none : idle = 0 := first.idle_eq_zero (by simp [next])
      obtain ⟨rest, fewAfter, second⟩ := ih
      refine ⟨rest, fewAfter, ?_⟩
      rw [none] at first
      simpa only [Nat.zero_add] using first.trans second

/-- A loop has one idle reading more than its handlers at most. -/
theorem run_consumes (consumes : r.Consumes k) (prompt : String) :
    (run r prompt).Consumes fun _ idle => idle ≤ k + 1 := by
  intro s
  refine (run_turns consumes prompt s).mono ?_
  rintro answer t ⟨lines, last, turns, ends⟩
  obtain ⟨idle, few, sofar⟩ := turns.advances consumes
  cases ends with
  | exit read answered leaves =>
    have none : idle = 0 := sofar.idle_eq_zero (by simp [read])
    obtain ⟨rest, fewAfter, after⟩ := answered_advances consumes read answered
    refine ⟨idle + rest, sofar.trans after, ?_⟩
    omega
  | endOfInput read =>
    have after := Console.advances_heard prompt last
    rw [read] at after
    exact ⟨idle + 1, sofar.trans after, by omega⟩
  | failure read =>
    have after := Console.advances_heard prompt last
    rw [read] at after
    exact ⟨idle + 0, sofar.trans after, by omega⟩

end Shell

end ProfileShell
