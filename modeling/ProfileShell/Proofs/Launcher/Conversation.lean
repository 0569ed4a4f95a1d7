import ProfileShell.Proofs.Launcher.Choices
import ProfileShell.Proofs.Session.Conversation

/-!
The readings of the launcher's commands.

Whatever the store does, a command reads once after the end of input at most: the question that
finds no answer, or the session that is played, is the last thing that reads. No command replies an
exit.
-/

set_option autoImplicit false
set_option relaxedAutoImplicit false

namespace ProfileShell.Launcher

open ProfileShell.Console (idleOf)
open ProfileShell.Task (Consumes Still Ensures)

variable {σ α β : Type}

/-- At most so many idle readings, and a reply that is not an exit if there is one. -/
def Stays (limit : Nat) (answer : Except Failure Reply) (idle : Nat) : Prop :=
  idle ≤ limit ∧ ∀ reply, answer = .ok reply → reply.kind ≠ "exit"

namespace Stays

variable {i j : Nat} {x : Task (Launcher σ) β} {f : β → Task (Launcher σ) Reply}

private theorem pure {reply : Reply} (staying : reply.kind ≠ "exit") :
    (Pure.pure reply : Task (Launcher σ) Reply).Consumes (Stays i) := by
  apply Consumes.pure
  refine ⟨Nat.zero_le i, ?_⟩
  rintro _ ⟨⟩
  exact staying

private theorem failed (e : Failure) (few : j ≤ i) : Stays i (.error e) j :=
  ⟨few, fun _ impossible => by cases impossible⟩

private theorem bind (first : x.Consumes fun _ idle => idle ≤ i)
    (second : ∀ b, (f b).Consumes (Stays j)) : (x >>= f).Consumes (Stays (i + j)) := by
  refine Consumes.bind first ?_ ?_
  · intro b idle few
    refine (second b).mono ?_
    rintro answer after ⟨fewAfter, staying⟩
    exact ⟨Nat.add_le_add few fewAfter, staying⟩
  · intro e idle few
    exact failed e (Nat.le_add_right_of_le few)

private theorem bind_still (still : x.Still) (second : ∀ b, (f b).Consumes (Stays j)) :
    (x >>= f).Consumes (Stays j) :=
  Consumes.bind_still still second fun e => failed e (Nat.zero_le j)

private theorem bind_asked {x : Task (Launcher σ) (Option β)}
    {f : Option β → Task (Launcher σ) Reply}
    (asks : x.Consumes fun answer idle => idle = idleOf answer)
    (interrupted : f none = Pure.pure .interrupted)
    (answered : ∀ b, (f (some b)).Consumes (Stays 1)) :
    (x >>= f).Consumes (Stays 1) := by
  refine Consumes.bind_asked asks ?_ answered fun e => failed e (Nat.zero_le 1)
  rw [interrupted]
  apply Consumes.pure
  refine ⟨Nat.le_refl 1, ?_⟩
  rintro _ ⟨⟩
  simp

end Stays

section Questions

private theorem profileIdentifier_still (args : Arguments) :
    (profileIdentifier args : Task (Launcher σ) String).Still := by
  unfold profileIdentifier
  cases args.text? "profile_id" with
  | none => exact Still.throw _
  | some input => exact Still.bind Still.get fun l => Still.pure _

private theorem chooseName_consumes (args : Arguments) (question : String) :
    (chooseName args question : Task (Launcher σ) (Option String)).Consumes fun answer idle =>
      idle = idleOf answer := by
  unfold chooseName
  by_cases missing : (Text.trim ((args.text? "name").getD "")).isEmpty = true
  · simp only [missing, if_true]
    refine Consumes.bind_still (Console.say_still question) (fun _ => ?_) fun e => rfl
    exact Console.askNonblank_consumes
  · simp only [missing, if_false, Bool.false_eq_true]
    exact Consumes.pure rfl

private theorem confirmRemoval_consumes (id : String) :
    (confirmRemoval id : Task (Launcher σ) (Option Bool)).Consumes fun answer idle =>
      idle = idleOf answer := by
  unfold confirmRemoval
  refine Consumes.bind_still (Console.say_still _) (fun _ => ?_) fun e => rfl
  refine Consumes.bind_still (Console.say_still _) (fun _ => ?_) fun e => rfl
  exact Console.askYesNo_consumes

end Questions

variable [RecordStore σ]

omit [RecordStore σ] in
private theorem onHost_consumes {P : Except Failure α → Nat → Prop} {x : Task (Host σ) α}
    (consumes : x.Consumes P) : (onHost x).Consumes P := by
  intro l
  exact Ensures.within (consumes l.host)

omit [RecordStore σ] in
private theorem onStore_still (x : Task σ α) : (onStore x).Still :=
  Still.of_console fun _ => rfl

private theorem isKnown_still (id : String) : (isKnown id : Task (Launcher σ) Bool).Still := by
  unfold isKnown
  split
  · exact onStore_still _
  · exact Still.pure _

private theorem identifierProblem_still (id : String) (current : Option String) :
    (identifierProblem id current : Task (Launcher σ) (Option String)).Still := by
  unfold identifierProblem
  split
  · exact Still.pure _
  · split
    · exact Still.pure _
    · refine Still.bind (onStore_still _) fun known => ?_
      split
      · exact Still.pure _
      · exact Still.pure _

theorem judgeIdentifier_still (suggested : String) (current : Option String) (answer : String) :
    (judgeIdentifier suggested current answer :
      Task (Launcher σ) (Except String String)).Still := by
  unfold judgeIdentifier
  refine Still.bind (identifierProblem_still _ current) fun problem => ?_
  cases problem with
  | some problem => exact Still.pure _
  | none => exact Still.pure _

private theorem chooseIdentifier_consumes (given : Option String) (suggested : String)
    (current : Option String) :
    (chooseIdentifier given suggested current : Task (Launcher σ) IdentifierChoice).Consumes
      fun _ idle => idle ≤ 1 := by
  have none : ∀ e : Failure, (fun (_ : Except Failure IdentifierChoice) idle => idle ≤ 1)
      (.error e) 0 := fun _ => Nat.zero_le 1
  unfold chooseIdentifier
  cases given with
  | some text =>
    refine Consumes.bind_still (identifierProblem_still _ current) (fun problem => ?_) none
    cases problem with
    | some problem => exact Consumes.pure (Nat.zero_le 1)
    | none => exact Consumes.pure (Nat.zero_le 1)
  | none =>
    refine Consumes.bind_still (Console.say_still _) (fun _ => ?_) none
    refine Consumes.bind_still (Console.say_still _) (fun _ => ?_) none
    have asks := Console.ask_consumes (judgeIdentifier_still (σ := σ) suggested current)
    refine Consumes.bind_asked asks ?_ (fun id => ?_) none
    · exact Consumes.pure (Nat.le_refl 1)
    · exact Consumes.pure (Nat.zero_le 1)

section Commands

variable (args : Arguments)

private theorem listCommand_stays :
    (listCommand args : Task (Launcher σ) Reply).Consumes (Stays 1) := by
  unfold listCommand
  refine Stays.bind_still (onStore_still _) fun profiles => ?_
  split
  · exact Stays.pure (by simp)
  · exact Stays.pure (by simp)

private theorem newCommand_stays :
    (newCommand args : Task (Launcher σ) Reply).Consumes (Stays 1) := by
  unfold newCommand
  refine Stays.bind_asked (chooseName_consumes args _) rfl fun name => ?_
  refine Stays.bind_still (onStore_still _) fun suggested => ?_
  refine Stays.bind (i := 1) (j := 0) (chooseIdentifier_consumes _ suggested none) fun choice => ?_
  cases choice with
  | rejected problem => exact Stays.pure (by simp)
  | interrupted => exact Stays.pure (by simp)
  | accepted id =>
    refine Stays.bind_still (Still.attempt (onStore_still _)) fun outcome => ?_
    cases outcome with
    | ok p => exact Stays.pure (by simp)
    | error e => exact Stays.bind_still (Still.note _ _) fun _ => Stays.pure (by simp)

private theorem runCommand_stays :
    (runCommand args : Task (Launcher σ) Reply).Consumes (Stays 1) := by
  unfold runCommand
  refine Stays.bind_still (profileIdentifier_still args) fun id => ?_
  refine Stays.bind_still (isKnown_still id) fun known => ?_
  split
  · exact Stays.pure (by simp)
  · refine Stays.bind_still (Still.attempt (onStore_still _)) fun outcome => ?_
    cases outcome with
    | error e => exact Stays.bind_still (Still.note _ _) fun _ => Stays.pure (by simp)
    | ok p =>
      refine Stays.bind_still Still.get fun l => ?_
      have played := onHost_consumes (Session.play_consumes (σ := σ) l.settings p)
      exact Stays.bind (i := 1) (j := 0) played fun _ => Stays.pure (by simp)

private theorem removeCommand_stays :
    (removeCommand args : Task (Launcher σ) Reply).Consumes (Stays 1) := by
  unfold removeCommand
  refine Stays.bind_still (profileIdentifier_still args) fun id => ?_
  refine Stays.bind_still (isKnown_still id) fun known => ?_
  split
  · exact Stays.pure (by simp)
  · cases args.boolean? "confirm" with
    | some given =>
      refine Stays.bind_still (Still.pure _) fun confirmed => ?_
      rcases confirmed with _ | _ | _
      · exact Stays.pure (by simp)
      · exact Stays.pure (by simp)
      · exact Stays.bind_still (onStore_still _) fun _ => Stays.pure (by simp)
    | none =>
      refine Stays.bind_asked (confirmRemoval_consumes id) rfl fun confirmed => ?_
      cases confirmed with
      | false => exact Stays.pure (by simp)
      | true => exact Stays.bind_still (onStore_still _) fun _ => Stays.pure (by simp)

private theorem renameCommand_stays :
    (renameCommand args : Task (Launcher σ) Reply).Consumes (Stays 1) := by
  unfold renameCommand
  refine Stays.bind_still (profileIdentifier_still args) fun oldId => ?_
  refine Stays.bind_still (isKnown_still oldId) fun known => ?_
  split
  · exact Stays.pure (by simp)
  · refine Stays.bind_still (Still.attempt (onStore_still _)) fun outcome => ?_
    cases outcome with
    | error e => exact Stays.bind_still (Still.note _ _) fun _ => Stays.pure (by simp)
    | ok old =>
      refine Stays.bind_still (Console.say_still _) fun _ => ?_
      refine Stays.bind_still (Console.say_still _) fun _ => ?_
      refine Stays.bind_asked (chooseName_consumes args _) rfl fun newName => ?_
      refine Stays.bind_still (onStore_still _) fun suggested => ?_
      refine Stays.bind (i := 1) (j := 0) (chooseIdentifier_consumes _ suggested _) fun choice => ?_
      cases choice with
      | rejected problem => exact Stays.pure (by simp)
      | interrupted => exact Stays.pure (by simp)
      | accepted newId =>
        refine Stays.bind_still (Still.attempt (onStore_still _)) fun outcome => ?_
        cases outcome with
        | ok p => exact Stays.pure (by simp)
        | error e => exact Stays.bind_still (Still.note _ _) fun _ => Stays.pure (by simp)

end Commands

/-- Every command does a task that ends with one idle reading at most and no exit. -/
theorem commands_stay : ∀ c ∈ (commands : List (Command (Launcher σ))),
    ∃ task, c.handler = .ofTask task ∧ ∀ args, (task args).Consumes (Stays 1) := by
  intro c member
  simp only [commands, List.mem_cons, List.not_mem_nil, or_false] at member
  rcases member with rfl | rfl | rfl | rfl | rfl
  · exact ⟨_, rfl, listCommand_stays⟩
  · exact ⟨_, rfl, newCommand_stays⟩
  · exact ⟨_, rfl, runCommand_stays⟩
  · exact ⟨_, rfl, removeCommand_stays⟩
  · exact ⟨_, rfl, renameCommand_stays⟩

end ProfileShell.Launcher
