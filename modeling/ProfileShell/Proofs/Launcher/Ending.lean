import ProfileShell.Proofs.Launcher.Conversation
import ProfileShell.Proofs.Launcher.Effects

/-!
How a run of the launcher ends.

It ends by what it reads at its own prompt and by nothing else: an exit line, the end of input or a
reading that fails. Failures of the store and of handlers, and whatever is read by questions and in
sessions, do not end it. It reads twice after the end of input at most, once in a question or a
session and once at its own prompt.
-/

set_option autoImplicit false
set_option relaxedAutoImplicit false

namespace ProfileShell.Launcher

open HasConsole (console)
open ProfileShell.Command (IsExitLine dispatch)
open ProfileShell.Console (Advances heard said nextAnswer)
open ProfileShell.Shell (LoopEnd Turns EndsWith ownReadings)
open ProfileShell.Task (Ensures)

variable {σ : Type} [RecordStore σ]

def menu (policy : OverlapPolicy) : Registry (Launcher σ) :=
  (Registry.ofCommands policy commands).state

private theorem commands_menu (policy : OverlapPolicy) :
    (menu policy : Registry (Launcher σ)).commands = commands :=
  Registry.commands_ofCommands isDefined_commands (answer_ofCommands policy)

private theorem menu_consumes (policy : OverlapPolicy) :
    (menu policy : Registry (Launcher σ)).Consumes 1 where
  sound := Registry.sound_ofCommands policy isDefined_commands
  handlers c member := by
    rw [commands_menu] at member
    obtain ⟨task, does, stays⟩ := commands_stay c member
    rw [does]
    exact Handler.consumes_ofTask fun args => (stays args).mono fun _ _ ends => ends.1

private theorem isExit_dispatch_iff (policy : OverlapPolicy) (line : String) (l : Launcher σ) :
    (Action.run (dispatch (menu policy) line) l).answer.isExit = true ↔ IsExitLine line := by
  have sound := (menu_consumes (σ := σ) policy).sound
  have exits := Dispatcher.kind_dispatch_eq_exit_iff sound line l
  rw [Reply.isExit, beq_iff_eq, exits]
  constructor
  · rintro (isExit | ⟨c, args, reply, called, replied, kind⟩)
    · exact isExit
    · obtain ⟨_, _, _, member, _⟩ :=
        (Command.call?_eq_some_iff_of_sound sound line c args).mp called
      rw [commands_menu] at member
      obtain ⟨task, does, stays⟩ := commands_stay c member
      obtain ⟨_, _, _, staying⟩ := stays args l
      rw [does, Handler.run_ofTask] at replied
      cases answer : ((task args).runOn l).answer with
      | ok other =>
        rw [answer] at replied
        cases replied
        exact absurd kind (staying reply answer)
      | error e =>
        rw [answer] at replied
        cases replied
  · exact Or.inl

section Loop

variable {policy : OverlapPolicy} {prompt : String}

private theorem isExitLine_iff_of_answered {l t : Launcher σ} {line : String} {reply : Reply}
    (answered : (Shell.answerLine (menu policy) line).Ensures l fun answer after =>
      answer = .ok reply ∧ after = t) :
    IsExitLine line ↔ reply.isExit = true := by
  obtain ⟨same, -⟩ := Shell.answerLine_ensures (menu policy) line l
  have replied := answered.1.symm.trans same
  cases replied
  exact (isExit_dispatch_iff policy line l).symm

private theorem not_isExitLine_of_turns {l last : Launcher σ} {lines : List String}
    (turns : Turns (menu policy) prompt l lines last) : ∀ line ∈ lines, ¬IsExitLine line := by
  induction turns with
  | nil => simp
  | cons read answered stays later ih =>
    intro line member
    rcases List.mem_cons.mp member with rfl | member
    · rw [isExitLine_iff_of_answered answered, stays]
      exact Bool.false_ne_true
    · exact ih line member

private theorem eq_of_answered_exit {l t : Launcher σ} {line : String} {reply : Reply}
    (isExit : IsExitLine line)
    (answered : (Shell.answerLine (menu policy) line).Ensures l fun answer after =>
      answer = .ok reply ∧ after = t) : t = l := by
  obtain ⟨replied, unchanged⟩ := Dispatcher.run_dispatch_of_isExitLine
    (menu_consumes (σ := σ) policy).sound isExit l
  obtain ⟨-, lines, left, silent⟩ := Shell.answerLine_ensures (menu policy) line l
  rw [silent replied, List.foldl_nil, unchanged] at left
  exact answered.2.symm.trans left

private theorem ends_by_reading {last t : Launcher σ} {answer : Except Failure LoopEnd}
    (ends : EndsWith (menu policy) prompt last answer t) :
    t = heard prompt last ∧
      (answer = .ok .exit ↔
        ∃ line, nextAnswer (console last).pending = .ok (some line) ∧ IsExitLine line) ∧
      (answer = .ok .endOfInput ↔ nextAnswer (console last).pending = .ok none) ∧
      ∀ e, answer = .error e ↔ nextAnswer (console last).pending = .error e := by
  cases ends with
  | @exit t line reply read answered leaves =>
    have isExit : IsExitLine line := (isExitLine_iff_of_answered answered).mpr leaves
    refine ⟨eq_of_answered_exit isExit answered, ?_, ?_, ?_⟩
    · simp [read, isExit]
    · simp [read]
    · simp [read]
  | endOfInput read => simp [read]
  | failure read => simp [read]

end Loop

/-- A run from `l` that ends with `answer` in `t`: the launcher reads and answers `lines` at its own
prompt, and reads there once more in `last`. -/
structure EndsAfter (l : Launcher σ) (lines : List String) (last : Launcher σ)
    (answer : Except Failure LoopEnd) (t : Launcher σ) : Prop where
  turns : Turns (menu l.settings.overlapPolicy) l.settings.prompt (said "Game Launcher Running." l)
    lines last
  exit_iff : answer = .ok .exit ↔
    ∃ line, .ok (some line) ∈ ownReadings lines last ∧ IsExitLine line
  exit : answer = .ok .exit → t = heard l.settings.prompt last
  endOfInput_iff : answer = .ok .endOfInput ↔ .ok none ∈ ownReadings lines last
  endOfInput : answer = .ok .endOfInput →
    t = said "Process interrupted." (heard l.settings.prompt last)
  failure_iff : ∀ e, answer = .error e ↔ .error e ∈ ownReadings lines last
  failure : ∀ e, answer = .error e → t = heard l.settings.prompt last
  reads : ∃ events, (console t).transcript = (console l).transcript ++ events ∧
    events.countP Exchange.isRead ≤ (console l).pending.length + 2

section Assembly

variable {l last t : Launcher σ} {lines : List String} {answer : Except Failure LoopEnd}

private theorem endsAfter_of_turns
    (turns : Turns (menu l.settings.overlapPolicy) l.settings.prompt
      (said "Game Launcher Running." l) lines last)
    (ends : EndsWith (menu l.settings.overlapPolicy) l.settings.prompt last answer
      (heard l.settings.prompt last))
    (interrupted : answer = .ok .endOfInput →
      t = said "Process interrupted." (heard l.settings.prompt last))
    (others : answer ≠ .ok .endOfInput → t = heard l.settings.prompt last)
    {idle : Nat} (advances : Advances (console l) (console t) idle) (few : idle ≤ 2) :
    EndsAfter l lines last answer t := by
  obtain ⟨-, exit, ended, failed⟩ := ends_by_reading ends
  have earlier := not_isExitLine_of_turns turns
  exact {
    turns
    exit_iff := by
      rw [exit]
      constructor
      · rintro ⟨line, read, isExit⟩
        exact ⟨line, (Shell.line_mem_ownReadings lines last line).mpr (Or.inr read), isExit⟩
      · rintro ⟨line, member, isExit⟩
        rcases (Shell.line_mem_ownReadings lines last line).mp member with earlierLine | read
        · exact absurd isExit (earlier line earlierLine)
        · exact ⟨line, read, isExit⟩
    exit := fun same => others (by simp [same])
    endOfInput_iff := by rw [ended, Shell.none_mem_ownReadings]
    endOfInput := interrupted
    failure_iff := fun e => by rw [failed, Shell.error_mem_ownReadings]
    failure := fun e same => others (by simp [same])
    reads := by
      obtain ⟨events, same, count⟩ := advances.countP_isRead_le
      exact ⟨events, same, by omega⟩ }

end Assembly

private theorem run_endsAfter (l : Launcher σ) :
    (run : Task (Launcher σ) LoopEnd).Ensures l fun answer t =>
      ∃ lines last, EndsAfter l lines last answer t := by
  have greeting := Console.advances_said "Game Launcher Running." l
  have consumes := menu_consumes (σ := σ) l.settings.overlapPolicy
  have looped := (Shell.run_turns consumes l.settings.prompt (said "Game Launcher Running." l)).and
    (Shell.run_consumes consumes l.settings.prompt (said "Game Launcher Running." l))
  unfold run
  refine Ensures.step (t := l) (w := []) rfl
    (Ensures.step (Registry.runOn_build_of_ok (answer_ofCommands _) l) ?_)
  refine Ensures.step (t := said "Game Launcher Running." l) (w := []) rfl ?_
  refine Ensures.bind looped ?_ ?_
  · rintro ending u ⟨⟨lines, last, turns, ends⟩, idle, advances, few⟩
    obtain ⟨rfl, -⟩ := ends_by_reading ends
    have whole := greeting.trans advances
    rw [Nat.zero_add] at whole
    by_cases interrupted : ending = .endOfInput
    · rw [if_pos interrupted]
      have printed := whole.trans (Console.advances_said "Process interrupted." _)
      refine Ensures.step (t := said "Process interrupted." _) (w := []) rfl (Ensures.pure
        ⟨lines, last, endsAfter_of_turns turns ends (fun _ => rfl) ?_ printed few⟩)
      intro other
      exact absurd (congrArg Except.ok interrupted) other
    · rw [if_neg interrupted]
      refine Ensures.pure
        ⟨lines, last, endsAfter_of_turns turns ends ?_ (fun _ => rfl) whole few⟩
      intro same
      exact absurd (Except.ok.inj same) interrupted
  · rintro e u ⟨⟨lines, last, turns, ends⟩, idle, advances, few⟩
    obtain ⟨rfl, -⟩ := ends_by_reading ends
    have whole := greeting.trans advances
    rw [Nat.zero_add] at whole
    exact ⟨lines, last, endsAfter_of_turns turns ends (fun impossible => by cases impossible)
      (fun _ => rfl) whole few⟩

/-- The loops and the questions of a launcher are not cut short: each is one round, after which it
goes on. -/
structure Unbounded (σ : Type) [RecordStore σ] : Prop where
  launcher : ∀ policy prompt, Shell.run (menu policy : Registry (Launcher σ)) prompt =
    Shell.round (menu policy) prompt (Shell.run (menu policy) prompt)
  session : ∀ policy prompt, Shell.run (Session.menu policy : Registry (Session σ)) prompt =
    Shell.round (Session.menu policy) prompt (Shell.run (Session.menu policy) prompt)
  identifier : ∀ suggested current,
    Console.ask (judgeIdentifier (σ := σ) suggested current) =
      Console.askRound (judgeIdentifier suggested current)
        (Console.ask (judgeIdentifier suggested current))
  name : (Console.askNonblank : Task (Launcher σ) (Option String)) =
    Console.askRound (fun answer => pure (Console.judgeNonblank answer)) Console.askNonblank
  confirmation : (Console.askYesNo : Task (Launcher σ) (Option Bool)) =
    Console.askRound (fun answer => pure (Console.judgeYesNo answer)) Console.askYesNo

private theorem unbounded : Unbounded σ where
  launcher policy prompt := Shell.run_eq (menu_consumes policy) prompt
  session policy prompt := Shell.run_eq (Session.menu_consumes policy) prompt
  identifier suggested current := Console.ask_eq (judgeIdentifier_still suggested current)
  name := Console.ask_eq fun _ => Task.Still.pure _
  confirmation := Console.ask_eq fun _ => Task.Still.pure _

/-- Whatever the store does, whatever the settings are and whatever is there to be read, a run of
the launcher ends by an exit line, the end of input or a failure that it reads at its own prompt,
and by nothing else; it reads at most twice more than there are inputs. -/
theorem run_ends_by_own_reading (l : Launcher σ) :
    Unbounded σ ∧ (run : Task (Launcher σ) LoopEnd).Ensures l fun answer t =>
      ∃ lines last, EndsAfter l lines last answer t :=
  ⟨unbounded, run_endsAfter l⟩

end ProfileShell.Launcher
