import ProfileShell.Launcher
import ProfileShell.Proofs.Session

/-!
What the launcher keeps of its store and its clock.

The launcher looks at the store, writes new and renamed profiles, removes records and starts
sessions. Properties that each of these steps passes on are kept by every command and so by every
run, whatever is typed and wherever a reading fails.
-/

set_option autoImplicit false
set_option relaxedAutoImplicit false

namespace ProfileShell

variable {σ : Type} {Good : σ → Prop} {Timed : Clock → Prop} {Fit : Profile → Prop}

namespace Launcher

def Holds (Good : σ → Prop) (Timed : Clock → Prop) (l : Launcher σ) : Prop :=
  Good l.host.store ∧ Timed l.host.clock

theorem indifferent : Console.Indifferent (Holds Good Timed) :=
  fun _ _ holds => holds

theorem onStore_keeps {α : Type} {P : α → Prop} {x : Task σ α} (keeps : Task.Keeps Good x P) :
    Task.Keeps (Holds Good Timed) (onStore x) P := by
  have onHost : Task.Keeps (fun h : Host σ => Good h.store ∧ Timed h.clock) (Host.onStore x) P :=
    Task.Keeps.within keeps (fun _ holds => holds.1) fun _ _ holds good => ⟨good, holds.2⟩
  exact Task.Keeps.within onHost (fun _ holds => holds) fun _ _ _ holds => holds

private theorem profileIdentifier_keeps (args : Arguments) :
    Task.Keeps (Holds (σ := σ) Good Timed) (profileIdentifier args) fun _ => True := by
  unfold profileIdentifier
  split
  · exact Task.Keeps.throw
  · exact Task.Keeps.bind Task.Keeps.get fun _ _ => Task.Keeps.pure trivial

theorem chooseName_keeps (args : Arguments) (question : String) :
    Task.Keeps (Holds (σ := σ) Good Timed) (chooseName args question) fun _ => True := by
  unfold chooseName
  simp only
  split
  · refine Task.Keeps.bind (Console.say_keeps indifferent question) fun _ _ => ?_
    have judged : ∀ answer, Task.Keeps (Holds (σ := σ) Good Timed)
        (pure (Console.judgeNonblank answer)) fun verdict =>
          ∀ value, verdict = .ok value → True :=
      fun _ => Task.Keeps.pure fun _ _ => trivial
    exact Task.Keeps.mono (Console.ask_keeps indifferent judged) fun _ _ => trivial
  · exact Task.Keeps.pure trivial

private theorem confirmRemoval_keeps (id : String) :
    Task.Keeps (Holds (σ := σ) Good Timed) (confirmRemoval id) fun _ => True := by
  have judged : ∀ answer, Task.Keeps (Holds (σ := σ) Good Timed)
      (pure (Console.judgeYesNo answer)) fun verdict => ∀ value, verdict = .ok value → True :=
    fun _ => Task.Keeps.pure fun _ _ => trivial
  unfold confirmRemoval
  refine Task.Keeps.bind (Console.say_keeps indifferent _) fun _ _ => ?_
  refine Task.Keeps.bind (Console.say_keeps indifferent _) fun _ _ => ?_
  exact Task.Keeps.mono (Console.ask_keeps indifferent judged) fun _ _ => trivial

section Looking

/-! To choose an identifier keeps what it keeps to ask the store whether one is taken. -/

variable [RecordStore σ]
variable (looks : ∀ id, Task.Keeps Good (RecordStore.holds (σ := σ) id) fun _ => True)
include looks

private theorem identifierProblem_keeps (id : String) (current : Option String) :
    Task.Keeps (Holds Good Timed) (identifierProblem (σ := σ) id current) fun _ => True := by
  unfold identifierProblem
  split
  · exact Task.Keeps.pure trivial
  · split
    · exact Task.Keeps.pure trivial
    · refine Task.Keeps.bind (onStore_keeps (looks id)) fun taken _ => ?_
      split <;> exact Task.Keeps.pure trivial

theorem chooseIdentifier_keeps (given : Option String) (suggested : String)
    (current : Option String) :
    Task.Keeps (Holds Good Timed) (chooseIdentifier (σ := σ) given suggested current)
      fun _ => True := by
  unfold chooseIdentifier
  cases given with
  | some text =>
    refine Task.Keeps.bind (identifierProblem_keeps looks _ current) fun problem _ => ?_
    split <;> exact Task.Keeps.pure trivial
  | none =>
    have judged : ∀ answer, Task.Keeps (Holds Good Timed)
        (judgeIdentifier (σ := σ) suggested current answer) fun verdict =>
          ∀ value, verdict = .ok value → True := by
      intro answer
      unfold judgeIdentifier
      refine Task.Keeps.bind (identifierProblem_keeps looks _ current) fun problem _ => ?_
      split <;> exact Task.Keeps.pure fun _ _ => trivial
    refine Task.Keeps.bind (Console.say_keeps indifferent _) fun _ _ => ?_
    refine Task.Keeps.bind (Console.say_keeps indifferent _) fun _ _ => ?_
    refine Task.Keeps.bind (Console.ask_keeps indifferent judged) fun chosen _ => ?_
    split <;> exact Task.Keeps.pure trivial

private theorem isKnown_keeps (id : String) :
    Task.Keeps (Holds Good Timed) (isKnown (σ := σ) id) fun _ => True := by
  unfold isKnown
  split
  · exact onStore_keeps (looks id)
  · exact Task.Keeps.pure trivial

end Looking

end Launcher

variable [RecordStore σ]

/-- Properties of stores, clocks and profiles that each step of a launcher passes on. -/
structure Launcher.Upholds (Good : σ → Prop) (Timed : Clock → Prop) (Fit : Profile → Prop) :
    Prop extends Session.Upholds Good Timed Fit where
  identifiers : Task.Keeps Good RecordStore.identifiers fun _ => True
  holds : ∀ id, Task.Keeps Good (RecordStore.holds id) fun _ => True
  freeIdentifier : ∀ base, Task.Keeps Good (RecordStore.freeIdentifier base) fun _ => True
  read : ∀ id, Task.Keeps Good (RecordStore.read id) fun _ => True
  remove : ∀ id, Task.Keeps Good (RecordStore.remove id) fun _ => True
  new : ∀ id name, Fit (.new id name)
  loaded : ∀ text p, Profile.ofText text = .ok p → Fit p
  renamed : ∀ p id name, Fit p → Fit { p with id, name }

variable (upholds : Launcher.Upholds Good Timed Fit)
include upholds

namespace Profile

private theorem suggestIdentifier_keeps (name : String) :
    Task.Keeps Good (suggestIdentifier name) fun _ => True :=
  upholds.freeIdentifier _

private theorem create_keeps (id name : String) :
    Task.Keeps Good (create id name) fun _ => True := by
  unfold create
  refine Task.Keeps.bind (Task.Keeps.ofExcept fun _ _ => trivial) fun _ _ => ?_
  refine Task.Keeps.bind (upholds.holds id) fun taken _ => ?_
  split
  · exact Task.Keeps.throw_bind
  · refine Task.Keeps.bind (upholds.write _ (upholds.new id name)) fun _ _ => ?_
    exact Task.Keeps.bind Task.Keeps.note fun _ _ => Task.Keeps.pure trivial

private theorem load_keeps (id : String) : Task.Keeps Good (load id) Fit := by
  unfold load
  refine Task.Keeps.bind (upholds.read id) fun text _ => ?_
  refine Task.Keeps.bind (Task.Keeps.ofExcept (upholds.loaded text)) fun p fit => ?_
  have fit : Fit { p with id } := upholds.renamed p id p.name fit
  split
  · exact Task.Keeps.bind Task.Keeps.note fun _ _ => Task.Keeps.pure fit
  · exact Task.Keeps.pure fit

private theorem rename_keeps (oldId newId newName : String) :
    Task.Keeps Good (rename oldId newId newName) fun _ => True := by
  unfold rename
  refine Task.Keeps.bind (Task.Keeps.ofExcept fun _ _ => trivial) fun _ _ => ?_
  refine Task.Keeps.bind (load_keeps upholds oldId) fun p fit => ?_
  have fit := upholds.renamed p newId newName fit
  split
  · refine Task.Keeps.bind (upholds.holds newId) fun taken _ => ?_
    split
    · exact Task.Keeps.throw_bind
    · refine Task.Keeps.bind (upholds.write _ fit) fun _ _ => ?_
      refine Task.Keeps.bind (upholds.remove oldId) fun _ _ => ?_
      exact Task.Keeps.bind Task.Keeps.note fun _ _ => Task.Keeps.pure trivial
  · refine Task.Keeps.bind (upholds.write _ fit) fun _ _ => ?_
    exact Task.Keeps.bind Task.Keeps.note fun _ _ => Task.Keeps.pure trivial

private theorem remove_keeps (id : String) : Task.Keeps Good (remove id) fun _ => True := by
  unfold remove
  exact Task.Keeps.bind (upholds.remove id) fun _ _ => Task.Keeps.note

private theorem list_keeps :
    Task.Keeps Good (list : Task σ (List ProfileSummary)) fun _ => True := by
  have summarized : ∀ ids : List String, Task.Keeps Good (summarize ids) fun _ => True := by
    intro ids
    induction ids with
    | nil => exact Task.Keeps.pure trivial
    | cons id ids ih =>
      unfold summarize
      refine Task.Keeps.bind (Task.Keeps.attempt (load_keeps upholds id)) fun outcome _ => ?_
      cases outcome with
      | ok p => exact Task.Keeps.bind ih fun _ _ => Task.Keeps.pure trivial
      | error e => exact Task.Keeps.bind Task.Keeps.note fun _ _ => ih
  unfold list
  exact Task.Keeps.bind upholds.identifiers fun ids _ => summarized _

end Profile

namespace Launcher

variable (args : Arguments)

private theorem listCommand_keeps :
    Task.Keeps (Holds Good Timed) (listCommand (σ := σ) args) fun _ => True := by
  unfold listCommand
  refine Task.Keeps.bind (onStore_keeps (Profile.list_keeps upholds)) fun profiles _ => ?_
  split <;> exact Task.Keeps.pure trivial

private theorem newCommand_keeps :
    Task.Keeps (Holds Good Timed) (newCommand (σ := σ) args) fun _ => True := by
  unfold newCommand
  refine Task.Keeps.bind (chooseName_keeps args _) fun chosen _ => ?_
  cases chosen with
  | none => exact Task.Keeps.pure trivial
  | some name =>
    refine Task.Keeps.bind (onStore_keeps (Profile.suggestIdentifier_keeps upholds name))
      fun suggested _ => ?_
    refine Task.Keeps.bind (chooseIdentifier_keeps upholds.holds _ suggested none)
      fun choice _ => ?_
    cases choice with
    | rejected problem => exact Task.Keeps.pure trivial
    | interrupted => exact Task.Keeps.pure trivial
    | accepted id =>
      refine Task.Keeps.bind
        (Task.Keeps.attempt (onStore_keeps (Profile.create_keeps upholds id name)))
        fun outcome _ => ?_
      cases outcome with
      | ok p => exact Task.Keeps.pure trivial
      | error e => exact Task.Keeps.bind Task.Keeps.note fun _ _ => Task.Keeps.pure trivial

private theorem runCommand_keeps :
    Task.Keeps (Holds Good Timed) (runCommand (σ := σ) args) fun _ => True := by
  unfold runCommand
  refine Task.Keeps.bind (profileIdentifier_keeps args) fun id _ => ?_
  refine Task.Keeps.bind (isKnown_keeps upholds.holds id) fun known _ => ?_
  split
  · exact Task.Keeps.pure trivial
  · refine Task.Keeps.bind
      (Task.Keeps.attempt (onStore_keeps (Profile.load_keeps upholds id))) fun outcome found => ?_
    cases outcome with
    | error e => exact Task.Keeps.bind Task.Keeps.note fun _ _ => Task.Keeps.pure trivial
    | ok p =>
      have played : ∀ settings, Task.Keeps (Holds Good Timed)
          (onHost (Session.play (σ := σ) settings p)) fun _ => True := fun settings =>
        Task.Keeps.within (Session.play_keeps upholds.toUpholds settings (found p rfl))
          (fun _ holds => holds) fun _ _ _ holds => holds
      refine Task.Keeps.bind Task.Keeps.get fun l _ => ?_
      exact Task.Keeps.bind (played l.settings) fun _ _ => Task.Keeps.pure trivial

private theorem removeCommand_keeps :
    Task.Keeps (Holds Good Timed) (removeCommand (σ := σ) args) fun _ => True := by
  have removes : ∀ id, Task.Keeps (Holds Good Timed) (onStore (Profile.remove (σ := σ) id))
      fun _ => True := fun id => onStore_keeps (Profile.remove_keeps upholds id)
  unfold removeCommand
  refine Task.Keeps.bind (profileIdentifier_keeps args) fun id _ => ?_
  refine Task.Keeps.bind (isKnown_keeps upholds.holds id) fun known _ => ?_
  split
  · exact Task.Keeps.pure trivial
  · cases args.boolean? "confirm" with
    | some confirmed =>
      refine Task.Keeps.bind (P := fun c => c = some confirmed) (Task.Keeps.pure rfl) ?_
      rintro _ rfl
      cases confirmed with
      | false => exact Task.Keeps.pure trivial
      | true => exact Task.Keeps.bind (removes id) fun _ _ => Task.Keeps.pure trivial
    | none =>
      refine Task.Keeps.bind (confirmRemoval_keeps id) fun confirmed _ => ?_
      rcases confirmed with _ | _ | _
      · exact Task.Keeps.pure trivial
      · exact Task.Keeps.pure trivial
      · exact Task.Keeps.bind (removes id) fun _ _ => Task.Keeps.pure trivial

private theorem renameCommand_keeps :
    Task.Keeps (Holds Good Timed) (renameCommand (σ := σ) args) fun _ => True := by
  unfold renameCommand
  refine Task.Keeps.bind (profileIdentifier_keeps args) fun oldId _ => ?_
  refine Task.Keeps.bind (isKnown_keeps upholds.holds oldId) fun known _ => ?_
  split
  · exact Task.Keeps.pure trivial
  · refine Task.Keeps.bind
      (Task.Keeps.attempt (onStore_keeps (Profile.load_keeps upholds oldId))) fun outcome _ => ?_
    cases outcome with
    | error e => exact Task.Keeps.bind Task.Keeps.note fun _ _ => Task.Keeps.pure trivial
    | ok old =>
      refine Task.Keeps.bind (Console.say_keeps indifferent _) fun _ _ => ?_
      refine Task.Keeps.bind (Console.say_keeps indifferent _) fun _ _ => ?_
      refine Task.Keeps.bind (chooseName_keeps args _) fun chosen _ => ?_
      cases chosen with
      | none => exact Task.Keeps.pure trivial
      | some newName =>
        refine Task.Keeps.bind (onStore_keeps (Profile.suggestIdentifier_keeps upholds newName))
          fun suggested _ => ?_
        refine Task.Keeps.bind (chooseIdentifier_keeps upholds.holds _ suggested _)
          fun choice _ => ?_
        cases choice with
        | rejected problem => exact Task.Keeps.pure trivial
        | interrupted => exact Task.Keeps.pure trivial
        | accepted newId =>
          refine Task.Keeps.bind (Task.Keeps.attempt
            (onStore_keeps (Profile.rename_keeps upholds oldId newId newName)))
            fun outcome _ => ?_
          cases outcome with
          | ok p => exact Task.Keeps.pure trivial
          | error e => exact Task.Keeps.bind Task.Keeps.note fun _ _ => Task.Keeps.pure trivial

private theorem commands_keep : ∀ c ∈ (commands : List (Command (Launcher σ))),
    Handler.Keeps (Holds Good Timed) c.handler := by
  intro c member
  simp only [commands, List.mem_cons, List.not_mem_nil, or_false] at member
  rcases member with rfl | rfl | rfl | rfl | rfl
  · exact Handler.keeps_ofTask (listCommand_keeps upholds)
  · exact Handler.keeps_ofTask (newCommand_keeps upholds)
  · exact Handler.keeps_ofTask (runCommand_keeps upholds)
  · exact Handler.keeps_ofTask (removeCommand_keeps upholds)
  · exact Handler.keeps_ofTask (renameCommand_keeps upholds)

/-- A whole run passes the properties on, however it ends. -/
theorem run_keeps : Task.Keeps (Holds Good Timed) (run (σ := σ)) fun _ => True := by
  unfold run
  refine Task.Keeps.bind Task.Keeps.get fun l _ => ?_
  refine Task.Keeps.bind (Registry.build_keeps l.settings.overlapPolicy (commands_keep upholds))
    fun registry keeps => ?_
  refine Task.Keeps.bind (Console.say_keeps indifferent _) fun _ _ => ?_
  refine Task.Keeps.bind (Shell.run_keeps indifferent keeps _) fun ending _ => ?_
  split
  · exact Task.Keeps.bind (Console.say_keeps indifferent _) fun _ _ => Task.Keeps.pure trivial
  · exact Task.Keeps.pure trivial

end Launcher

end ProfileShell
