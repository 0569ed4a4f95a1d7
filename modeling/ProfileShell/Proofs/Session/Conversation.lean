import ProfileShell.Proofs.Session
import ProfileShell.Proofs.Shell.Turns

/-!
The readings of a play session.

The handlers of a session do not read, so a session reads once after the end of input at most,
whatever its store does.
-/

set_option autoImplicit false
set_option relaxedAutoImplicit false

namespace ProfileShell.Session

open ProfileShell.Task (Consumes Still Ensures)

variable {σ α : Type} [RecordStore σ]

def menu (policy : OverlapPolicy) : Registry (Session σ) :=
  (Registry.ofCommands policy commands).state

omit [RecordStore σ] in
private theorem onStore_still (x : Task σ α) : (onStore x).Still :=
  Still.of_console fun _ => rfl

omit [RecordStore σ] in
private theorem now_still : (now : Task (Session σ) Binary64).Still :=
  Still.of_console fun _ => rfl

private theorem save_still : (save : Task (Session σ) Unit).Still := by
  unfold save
  refine Still.bind now_still fun time => ?_
  refine Still.bind (Still.of_console fun _ => rfl) fun _ => ?_
  exact Still.bind Still.get fun s => onStore_still _

private theorem saveCommand_still (args : Arguments) :
    (saveCommand args : Task (Session σ) Reply).Still := by
  unfold saveCommand
  refine Still.bind (Still.attempt save_still) fun outcome => ?_
  cases outcome with
  | ok _ => exact Still.pure _
  | error e =>
    refine Still.bind Still.get fun s => ?_
    exact Still.bind (Still.note _ _) fun _ => Still.pure _

omit [RecordStore σ] in
private theorem statusCommand_still (args : Arguments) :
    (statusCommand args : Task (Session σ) Reply).Still := by
  unfold statusCommand
  refine Still.bind Still.get fun s => ?_
  cases args.text? "skill" with
  | some skill => exact Still.pure _
  | none => exact Still.pure _

omit [RecordStore σ] in
private theorem xpCommand_still (args : Arguments) :
    (xpCommand args : Task (Session σ) Reply).Still := by
  apply Still.of_console
  intro s
  unfold xpCommand
  cases args.integer? "amount" with
  | none => rfl
  | some amount =>
    by_cases few : amount.toInt ≤ 0
    · simp only [few, if_true]
      rfl
    · simp only [few, if_false]
      rfl

private theorem commands_consume : ∀ c ∈ (commands : List (Command (Session σ))),
    Handler.Consumes 0 c.handler := by
  have consumes : ∀ task : Arguments → Task (Session σ) Reply, (∀ args, (task args).Still) →
      Handler.Consumes 0 (.ofTask task) := by
    intro task still
    exact Handler.consumes_ofTask fun args => Consumes.mono (still args) fun _ _ none => none.le
  intro c member
  simp only [commands, List.mem_cons, List.not_mem_nil, or_false] at member
  rcases member with rfl | rfl | rfl
  · exact consumes _ saveCommand_still
  · exact consumes _ statusCommand_still
  · exact consumes _ xpCommand_still

theorem isDefined_commands :
    ∀ c ∈ (commands : List (Command (Session σ))), c.IsDefined := by
  intro c member
  simp only [commands, List.mem_cons, List.not_mem_nil, or_false] at member
  rcases member with rfl | rfl | rfl
  all_goals exact Command.isDefined_define ..

theorem menu_consumes (policy : OverlapPolicy) :
    (menu policy : Registry (Session σ)).Consumes 0 where
  sound := Registry.sound_ofCommands policy isDefined_commands
  handlers c member := commands_consume c (Registry.mem_of_mem_ofCommands member)

private theorem loop_consumes (settings : Settings) :
    (loop settings : Task (Session σ) Shell.LoopEnd).Consumes fun _ idle => idle ≤ 1 := by
  have none : ∀ e : Failure, (fun (_ : Except Failure Shell.LoopEnd) idle => idle ≤ 1)
      (.error e) 0 := fun _ => Nat.zero_le 1
  unfold loop
  refine Consumes.bind (Registry.build_consumes settings.overlapPolicy commands) ?_ ?_
  · rintro registry _ ⟨rfl, built⟩
    obtain rfl : registry = menu settings.overlapPolicy := built registry rfl
    simp only [Nat.zero_add]
    refine Consumes.bind_still now_still (fun time => ?_) none
    refine Consumes.bind_still (Still.of_console fun _ => rfl) (fun _ => ?_) none
    refine Consumes.bind_still Still.get (fun s => ?_) none
    refine Consumes.bind_still (Console.say_still _) (fun _ => ?_) none
    refine Consumes.bind_still (Still.note _ _) (fun _ => ?_) none
    refine Consumes.bind (Shell.run_consumes (menu_consumes settings.overlapPolicy) _) ?_ ?_
    · intro ending idle few
      refine Consumes.mono (Still.bind save_still fun _ => ?_) ?_
      · refine Still.bind (Console.say_still _) fun _ => ?_
        exact Still.bind (Still.note _ _) fun _ => Still.pure _
      · rintro _ _ rfl
        exact few
    · intro e idle few
      exact few
  · rintro e _ ⟨rfl, -⟩
    exact Nat.zero_le 1

theorem play_consumes (settings : Settings) (p : Profile) :
    (play settings p : Task (Host σ) Shell.LoopEnd).Consumes fun _ idle => idle ≤ 1 := by
  intro host
  exact loop_consumes settings ⟨host, p⟩

end ProfileShell.Session
