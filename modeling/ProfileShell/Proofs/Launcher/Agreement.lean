import ProfileShell.Launcher
import ProfileShell.Proofs.Record.MemoryStore
import ProfileShell.Proofs.Shell.Agreement

/-!
A launcher does the same over stores that agree.

The launcher and its sessions work with a store through its operations only. Over two stores whose
operations answer alike a run reads and prints the same lines, takes the same times and ends alike,
and leaves the stores related. The stores need not answer alike for every identifier: the launcher
asks about identifiers that are valid or listed only.
-/

set_option autoImplicit false
set_option relaxedAutoImplicit false

namespace ProfileShell

variable {σ τ : Type} [RecordStore σ] [RecordStore τ] {R : σ → τ → Prop}
  {Marked : LogRecord → Prop} {Served : String → Prop}

def Profile.ascending : Task σ (List String) := do
  let ids ← RecordStore.identifiers
  return ids.mergeSort fun a b => decide (a ≤ b)

structure RecordStore.Agree (R : σ → τ → Prop) : Prop where
  identifiers : Task.Agrees R RecordStore.identifiers RecordStore.identifiers
  holds : ∀ id, Task.Agrees R (RecordStore.holds id) (RecordStore.holds id)
  freeIdentifier : ∀ base,
    Task.Agrees R (RecordStore.freeIdentifier base) (RecordStore.freeIdentifier base)
  read : ∀ id, Task.Agrees R (RecordStore.read id) (RecordStore.read id)
  write : ∀ id text, Task.Agrees R (RecordStore.write id text) (RecordStore.write id text)
  remove : ∀ id, Task.Agrees R (RecordStore.remove id) (RecordStore.remove id)

/-- Stores whose operations agree unless a marked record is logged. What is listed need only be the
same up to its order, and only some identifiers are asked about: all that are valid or listed. -/
structure RecordStore.AgreeUntil (Marked : LogRecord → Prop) (Served : String → Prop)
    (R : σ → τ → Prop) : Prop where
  ascending : Task.AgreesUntil Marked R Profile.ascending Profile.ascending
  holds : ∀ id, Served id → Task.AgreesUntil Marked R (RecordStore.holds id) (RecordStore.holds id)
  freeIdentifier : ∀ base,
    Task.AgreesUntil Marked R (RecordStore.freeIdentifier base) (RecordStore.freeIdentifier base)
  read : ∀ id, Served id → Task.AgreesUntil Marked R (RecordStore.read id) (RecordStore.read id)
  write : ∀ id text,
    Task.AgreesUntil Marked R (RecordStore.write id text) (RecordStore.write id text)
  remove : ∀ id, Served id →
    Task.AgreesUntil Marked R (RecordStore.remove id) (RecordStore.remove id)
  valid : ∀ id, Record.isValidIdentifier id = true → Served id
  listed : ∀ s t, R s t → ∀ ids, (Profile.ascending.runOn s).answer = .ok ids →
    ∀ id ∈ ids, Served id

private theorem RecordStore.Agree.until {Marked : LogRecord → Prop} (agree : RecordStore.Agree R) :
    RecordStore.AgreeUntil Marked (fun _ => True) R where
  ascending := .bind agree.identifiers.until fun _ => .pure _
  holds id _ := (agree.holds id).until
  freeIdentifier base := (agree.freeIdentifier base).until
  read id _ := (agree.read id).until
  write id text := (agree.write id text).until
  remove id _ := (agree.remove id).until
  valid _ _ := trivial
  listed _ _ _ _ _ _ _ := trivial

namespace Profile

private theorem list_eq : (list : Task σ (List ProfileSummary)) = ascending >>= summarize := by
  unfold list ascending
  rw [bind_assoc]
  simp only [pure_bind]

variable (agree : RecordStore.AgreeUntil Marked Served R)
include agree

private theorem checked_agreesUntil {α : Type} {id : String} {f : Unit → Task σ α}
    {g : Unit → Task τ α} (next : Served id → Task.AgreesUntil Marked R (f ()) (g ())) :
    Task.AgreesUntil Marked R (Task.ofExcept (Record.checkIdentifier id) >>= f)
      (Task.ofExcept (Record.checkIdentifier id) >>= g) := by
  refine .bind_of (P := fun _ => Served id) (.ofExcept _) ?_ fun _ served => next served
  intro s t _ _ checked
  exact agree.valid id (Record.isValidIdentifier_of_checkIdentifier checked)

private theorem create_agreesUntil (id name : String) :
    Task.AgreesUntil Marked R (create id name) (create id name) := by
  unfold create
  refine checked_agreesUntil agree fun served => ?_
  refine .bind (agree.holds id served) fun taken => ?_
  split
  · exact .throw_bind
  · exact .bind (agree.write _ _)
      fun _ => .bind (.note _ _) fun _ => .pure _

private theorem load_agreesUntil {id : String} (served : Served id) :
    Task.AgreesUntil Marked R (load id) (load id) := by
  unfold load
  refine .bind (agree.read id served) fun text => ?_
  refine .bind (.ofExcept _) fun p => ?_
  split
  · exact .bind (.note _ _) fun _ => .pure _
  · exact .pure _

private theorem rename_agreesUntil {oldId : String} (served : Served oldId)
    (newId newName : String) :
    Task.AgreesUntil Marked R (rename oldId newId newName) (rename oldId newId newName) := by
  unfold rename
  refine checked_agreesUntil agree fun servedNew => ?_
  refine .bind (load_agreesUntil agree served) fun p => ?_
  split
  · refine .bind (agree.holds newId servedNew) fun taken => ?_
    split
    · exact .throw_bind
    · refine .bind (agree.write _ _) fun _ => ?_
      refine .bind (agree.remove oldId served) fun _ => ?_
      exact .bind (.note _ _) fun _ => .pure _
  · exact .bind (agree.write _ _)
      fun _ => .bind (.note _ _) fun _ => .pure _

private theorem remove_agreesUntil {id : String} (served : Served id) :
    Task.AgreesUntil Marked R (remove id) (remove id) := by
  unfold remove
  exact .bind (agree.remove id served) fun _ => .note _ _

private theorem list_agreesUntil : Task.AgreesUntil Marked R (list (σ := σ)) (list (σ := τ)) := by
  have summarized : ∀ ids : List String, (∀ id ∈ ids, Served id) →
      Task.AgreesUntil Marked R (summarize ids) (summarize ids) := by
    intro ids served
    induction ids with
    | nil => exact .pure _
    | cons id ids ih =>
      obtain ⟨servedFirst, servedRest⟩ := List.forall_mem_cons.mp served
      unfold summarize
      refine .bind (.attempt (load_agreesUntil agree servedFirst)) fun outcome => ?_
      cases outcome with
      | ok p => exact .bind (ih servedRest) fun _ => .pure _
      | error e => exact .bind (.note _ _) fun _ => ih servedRest
  rw [list_eq, list_eq]
  exact .bind_of agree.ascending agree.listed summarized

end Profile

structure Host.Related (R : σ → τ → Prop) (h : Host σ) (k : Host τ) : Prop where
  store : R h.store k.store
  console : h.console = k.console
  clock : h.clock = k.clock

structure Session.Related (R : σ → τ → Prop) (s : Session σ) (t : Session τ) : Prop where
  host : Host.Related R s.host t.host
  profile : s.profile = t.profile

structure Launcher.Related (R : σ → τ → Prop) (l : Launcher σ) (m : Launcher τ) : Prop where
  host : Host.Related R l.host m.host
  settings : l.settings = m.settings

namespace Session

section Storeless

variable {σ τ : Type} {R : σ → τ → Prop}

private theorem shared : Console.Shared (Related R) where
  console _ _ related := related.host.console
  withConsole _ _ _ related :=
    ⟨⟨related.host.store, rfl, related.host.clock⟩, related.profile⟩

private theorem now_agreesUntil : Task.AgreesUntil Marked (Related R) now now := by
  refine .get_bind fun s t related => ?_
  intro _
  refine ⟨congrArg (fun c : Clock => Except.ok c.now) related.host.clock, ?_, related.profile⟩
  exact ⟨related.host.store, related.host.console, congrArg Clock.tick related.host.clock⟩

private theorem statusCommand_agreesUntil (args : Arguments) :
    Task.AgreesUntil Marked (Related R) (statusCommand (σ := σ) args)
      (statusCommand (σ := τ) args) := by
  refine .get_bind fun s t related => ?_
  rw [← related.profile]
  split <;> exact Task.AgreesUntil.pure _ s t related

private theorem xpCommand_agreesUntil (args : Arguments) :
    Task.AgreesUntil Marked (Related R) (xpCommand (σ := σ) args) (xpCommand (σ := τ) args) := by
  unfold xpCommand
  split
  · exact .throw _
  · split
    · exact .pure _
    · refine .get_bind fun s t related => ?_
      rw [← related.profile]
      exact fun _ => ⟨rfl, related.host, rfl⟩

end Storeless

variable (agree : RecordStore.AgreeUntil Marked Served R)
include agree

private theorem save_agreesUntil : Task.AgreesUntil Marked (Related R) save save := by
  unfold save
  refine .bind now_agreesUntil fun time => ?_
  refine .bind (.modify fun s t related => ?_) fun _ => ?_
  · exact ⟨related.host, congrArg (Profile.touch · time) related.profile⟩
  · refine .get_bind fun s t related => ?_
    have written : Task.AgreesUntil Marked (Related R) (onStore (Profile.save s.profile))
        (onStore (Profile.save s.profile)) :=
      Task.AgreesUntil.within (agree.write _ _) (fun _ _ related => related.host.store)
        fun _ _ _ _ related stores =>
          ⟨⟨stores, related.host.console, related.host.clock⟩, related.profile⟩
    rw [← related.profile]
    exact written s t related

private theorem saveCommand_agreesUntil (args : Arguments) :
    Task.AgreesUntil Marked (Related R) (saveCommand args) (saveCommand args) := by
  unfold saveCommand
  refine .bind (.attempt (save_agreesUntil agree)) fun outcome => ?_
  cases outcome with
  | ok _ => exact .pure _
  | error e =>
    refine .get_bind fun s t related => ?_
    rw [← related.profile]
    exact Task.AgreesUntil.bind (.note _ _) (fun _ => .pure _) s t related

private theorem commands_agreeUntil :
    List.Forall₂ (Command.AgreesUntil Marked (Related R)) (commands (σ := σ)) (commands (σ := τ)) :=
  .cons (.define (Handler.ofTask_agreesUntil (saveCommand_agreesUntil agree)) ..)
    (.cons (.define (Handler.ofTask_agreesUntil statusCommand_agreesUntil) ..)
      (.cons (.define (Handler.ofTask_agreesUntil xpCommand_agreesUntil) ..) .nil))

private theorem loop_agreesUntil (settings : Settings) :
    Task.AgreesUntil Marked (Related R) (loop (σ := σ) settings) (loop (σ := τ) settings) := by
  unfold loop
  refine Registry.build_bind_agreesUntil settings.overlapPolicy (commands_agreeUntil agree)
    fun r q registries => ?_
  refine .bind now_agreesUntil fun time => ?_
  refine .bind (.modify fun s t related => ?_) fun _ => ?_
  · exact ⟨related.host, congrArg (Profile.resume · time) related.profile⟩
  · refine .get_bind fun s t related => ?_
    rw [← related.profile]
    refine Task.AgreesUntil.bind (Console.say_agreesUntil shared _) (fun _ => ?_) s t related
    refine .bind (.note _ _) fun _ => ?_
    refine .bind (Shell.run_agreesUntil shared registries _) fun ending => ?_
    refine .bind (save_agreesUntil agree) fun _ => ?_
    refine .bind (Console.say_agreesUntil shared _) fun _ => ?_
    exact .bind (.note _ _) fun _ => .pure _

private theorem play_agreesUntil (settings : Settings) (p : Profile) :
    Task.AgreesUntil Marked (Host.Related R) (play (σ := σ) settings p)
      (play (σ := τ) settings p) := by
  intro h k related unmarked
  have ends := loop_agreesUntil agree settings ⟨h, p⟩ ⟨k, p⟩ ⟨related, rfl⟩ unmarked
  exact ⟨ends.1, ends.2.host⟩

end Session

namespace Launcher

section Storeless

variable {σ τ : Type} {R : σ → τ → Prop}

private theorem shared : Console.Shared (Related R) where
  console _ _ related := related.host.console
  withConsole _ _ _ related :=
    ⟨⟨related.host.store, rfl, related.host.clock⟩, related.settings⟩

private theorem onHost_agreesUntil {α : Type} {x : Task (Host σ) α} {y : Task (Host τ) α}
    (agrees : Task.AgreesUntil Marked (Host.Related R) x y) :
    Task.AgreesUntil Marked (Related R) (onHost x) (onHost y) :=
  Task.AgreesUntil.within agrees (fun _ _ related => related.host)
    fun _ _ _ _ related hosts => ⟨hosts, related.settings⟩

private theorem onStore_agreesUntil {α : Type} {x : Task σ α} {y : Task τ α}
    (agrees : Task.AgreesUntil Marked R x y) :
    Task.AgreesUntil Marked (Related R) (onStore x) (onStore y) := by
  refine onHost_agreesUntil (.within agrees (fun _ _ related => related.store) ?_)
  exact fun _ _ _ _ related stores => ⟨stores, related.console, related.clock⟩

private theorem profileIdentifier_agreesUntil (args : Arguments) :
    Task.AgreesUntil Marked (Related R) (profileIdentifier args) (profileIdentifier args) := by
  unfold profileIdentifier
  split
  · exact .throw _
  · refine .get_bind fun l m related => ?_
    rw [← related.settings]
    exact Task.AgreesUntil.pure _ l m related

private theorem chooseName_agreesUntil (args : Arguments) (question : String) :
    Task.AgreesUntil Marked (Related R) (chooseName args question) (chooseName args question) := by
  unfold chooseName
  simp only
  split
  · refine .bind (Console.say_agreesUntil shared question) fun _ => ?_
    exact Console.ask_agreesUntil shared fun _ => .pure _
  · exact .pure _

private theorem confirmRemoval_agreesUntil (id : String) :
    Task.AgreesUntil Marked (Related R) (confirmRemoval id) (confirmRemoval id) := by
  unfold confirmRemoval
  refine .bind (Console.say_agreesUntil shared _) fun _ => ?_
  refine .bind (Console.say_agreesUntil shared _) fun _ => ?_
  exact Console.ask_agreesUntil shared fun _ => .pure _

end Storeless

variable (agree : RecordStore.AgreeUntil Marked Served R)
include agree

private theorem identifierProblem_agreesUntil (id : String) (current : Option String) :
    Task.AgreesUntil Marked (Related R) (identifierProblem id current)
      (identifierProblem id current) := by
  unfold identifierProblem
  split
  · exact .pure _
  · rename_i usable
    have served : Served id := agree.valid id (by simpa using usable)
    split
    · exact .pure _
    · refine .bind (onStore_agreesUntil (agree.holds id served)) fun taken => ?_
      split <;> exact .pure _

private theorem chooseIdentifier_agreesUntil (given : Option String) (suggested : String)
    (current : Option String) :
    Task.AgreesUntil Marked (Related R) (chooseIdentifier given suggested current)
      (chooseIdentifier given suggested current) := by
  unfold chooseIdentifier
  cases given with
  | some text =>
    refine .bind (identifierProblem_agreesUntil agree _ current) fun problem => ?_
    split <;> exact .pure _
  | none =>
    have judges : ∀ answer, Task.AgreesUntil Marked (Related R)
        (judgeIdentifier suggested current answer) (judgeIdentifier suggested current answer) := by
      intro answer
      unfold judgeIdentifier
      refine .bind (identifierProblem_agreesUntil agree _ current) fun problem => ?_
      split <;> exact .pure _
    refine .bind (Console.say_agreesUntil shared _) fun _ => ?_
    refine .bind (Console.say_agreesUntil shared _) fun _ => ?_
    refine .bind (Console.ask_agreesUntil shared judges) fun chosen => ?_
    split <;> exact .pure _

private theorem isKnown_bind_agreesUntil {α : Type} (id : String) (otherwise : α)
    {f : Task (Launcher σ) α} {g : Task (Launcher τ) α}
    (next : Served id → Task.AgreesUntil Marked (Related R) f g) :
    Task.AgreesUntil Marked (Related R)
      (isKnown id >>= fun known => if (!known) = true then pure otherwise else f)
      (isKnown id >>= fun known => if (!known) = true then pure otherwise else g) := by
  unfold isKnown
  cases valid : Record.isValidIdentifier id with
  | true =>
    have served : Served id := agree.valid id valid
    refine .bind (onStore_agreesUntil (agree.holds id served)) fun known => ?_
    split
    · exact .pure _
    · exact next served
  | false => exact .pure _

variable (args : Arguments)

private theorem listCommand_agreesUntil :
    Task.AgreesUntil Marked (Related R) (listCommand args) (listCommand args) := by
  unfold listCommand
  refine .bind (onStore_agreesUntil (Profile.list_agreesUntil agree)) fun profiles => ?_
  split <;> exact .pure _

private theorem newCommand_agreesUntil :
    Task.AgreesUntil Marked (Related R) (newCommand args) (newCommand args) := by
  unfold newCommand
  refine .bind (chooseName_agreesUntil args _) fun chosen => ?_
  cases chosen with
  | none => exact .pure _
  | some name =>
    refine .bind (onStore_agreesUntil (agree.freeIdentifier _)) fun suggested => ?_
    refine .bind (chooseIdentifier_agreesUntil agree _ suggested none) fun choice => ?_
    cases choice with
    | rejected problem => exact .pure _
    | interrupted => exact .pure _
    | accepted id =>
      refine .bind
        (.attempt (onStore_agreesUntil (Profile.create_agreesUntil agree id name)))
        fun outcome => ?_
      cases outcome with
      | ok p => exact .pure _
      | error e => exact .bind (.note _ _) fun _ => .pure _

private theorem runCommand_agreesUntil :
    Task.AgreesUntil Marked (Related R) (runCommand args) (runCommand args) := by
  unfold runCommand
  refine .bind (profileIdentifier_agreesUntil args) fun id => ?_
  refine isKnown_bind_agreesUntil agree id _ fun served => ?_
  have loads := onStore_agreesUntil (Profile.load_agreesUntil agree served)
  refine .bind (.attempt loads) fun outcome => ?_
  cases outcome with
  | error e => exact .bind (.note _ _) fun _ => .pure _
  | ok p =>
    refine .get_bind fun l m related => ?_
    rw [← related.settings]
    have played := onHost_agreesUntil (Session.play_agreesUntil agree l.settings p)
    exact Task.AgreesUntil.bind played (fun _ => .pure _) l m related

private theorem removeCommand_agreesUntil :
    Task.AgreesUntil Marked (Related R) (removeCommand args) (removeCommand args) := by
  unfold removeCommand
  refine .bind (profileIdentifier_agreesUntil args) fun id => ?_
  refine isKnown_bind_agreesUntil agree id _ fun served => ?_
  have removes := onStore_agreesUntil (Profile.remove_agreesUntil agree served)
  cases args.boolean? "confirm" with
  | some confirmed =>
    refine .bind (.pure _) fun confirmed => ?_
    rcases confirmed with _ | _ | _
    · exact .pure _
    · exact .pure _
    · exact .bind removes fun _ => .pure _
  | none =>
    refine .bind (confirmRemoval_agreesUntil id) fun confirmed => ?_
    rcases confirmed with _ | _ | _
    · exact .pure _
    · exact .pure _
    · exact .bind removes fun _ => .pure _

private theorem renameCommand_agreesUntil :
    Task.AgreesUntil Marked (Related R) (renameCommand args) (renameCommand args) := by
  unfold renameCommand
  refine .bind (profileIdentifier_agreesUntil args) fun oldId => ?_
  refine isKnown_bind_agreesUntil agree oldId _ fun served => ?_
  have loads := onStore_agreesUntil (Profile.load_agreesUntil agree served)
  refine .bind (.attempt loads) fun outcome => ?_
  cases outcome with
  | error e => exact .bind (.note _ _) fun _ => .pure _
  | ok old =>
    refine .bind (Console.say_agreesUntil shared _) fun _ => ?_
    refine .bind (Console.say_agreesUntil shared _) fun _ => ?_
    refine .bind (chooseName_agreesUntil args _) fun chosen => ?_
    cases chosen with
    | none => exact .pure _
    | some newName =>
      refine .bind (onStore_agreesUntil (agree.freeIdentifier _)) fun suggested => ?_
      refine .bind (chooseIdentifier_agreesUntil agree _ suggested _) fun choice => ?_
      cases choice with
      | rejected problem => exact .pure _
      | interrupted => exact .pure _
      | accepted newId =>
        have renames := onStore_agreesUntil
          (Profile.rename_agreesUntil agree served newId newName)
        refine .bind (.attempt renames) fun outcome => ?_
        cases outcome with
        | ok p => exact .pure _
        | error e => exact .bind (.note _ _) fun _ => .pure _

private theorem commands_agreeUntil :
    List.Forall₂ (Command.AgreesUntil Marked (Related R)) (commands (σ := σ)) (commands (σ := τ)) :=
  .cons (.define (Handler.ofTask_agreesUntil (listCommand_agreesUntil agree)) ..)
    (.cons (.define (Handler.ofTask_agreesUntil (newCommand_agreesUntil agree)) ..)
      (.cons (.define (Handler.ofTask_agreesUntil (runCommand_agreesUntil agree)) ..)
        (.cons (.define (Handler.ofTask_agreesUntil (removeCommand_agreesUntil agree)) ..)
          (.cons (.define (Handler.ofTask_agreesUntil (renameCommand_agreesUntil agree)) ..)
            .nil))))

/-- Launchers over stores that agree until a marked record run alike until then. -/
theorem run_agreesUntil : Task.AgreesUntil Marked (Related R) (run (σ := σ)) (run (σ := τ)) := by
  refine .get_bind fun l m related => ?_
  rw [← related.settings]
  refine Registry.build_bind_agreesUntil l.settings.overlapPolicy (commands_agreeUntil agree)
    (fun r q registries => ?_) l m related
  refine .bind (Console.say_agreesUntil shared _) fun _ => ?_
  refine .bind (Shell.run_agreesUntil shared registries _) fun ending => ?_
  split
  · exact .bind (Console.say_agreesUntil shared _) fun _ => .pure _
  · exact .pure _

end Launcher

section Total

variable (agree : RecordStore.Agree R)
include agree

theorem Session.loop_agrees (settings : Settings) :
    Task.Agrees (Related R) (loop (σ := σ) settings) (loop (σ := τ) settings) :=
  (loop_agreesUntil agree.until settings).agrees

theorem Session.play_agrees (settings : Settings) (p : Profile) :
    Task.Agrees (Host.Related R) (play (σ := σ) settings p) (play (σ := τ) settings p) :=
  (play_agreesUntil agree.until settings p).agrees

theorem Launcher.commands_agree :
    List.Forall₂ (Command.Agrees (Related R)) (commands (σ := σ)) (commands (σ := τ)) :=
  commands_agreeUntil agree.until

/-- Launchers over stores that agree run alike. -/
theorem Launcher.run_agrees : Task.Agrees (Related R) (run (σ := σ)) (run (σ := τ)) :=
  (run_agreesUntil agree.until).agrees

end Total

end ProfileShell
