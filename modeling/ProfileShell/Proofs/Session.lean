import ProfileShell.Proofs.Shell
import ProfileShell.Session

/-!
What play sessions keep of the store, the clock and the profile.

A session writes one profile, the one being played, and changes it in three ways: it resumes it,
counts its playtime and awards experience. Properties of profiles that survive these changes and let
the profile be written are kept through every session, whatever is typed.
-/

set_option autoImplicit false
set_option relaxedAutoImplicit false

namespace ProfileShell

instance {σ : Type} : LawfulConsole (Host σ) where
  console_withConsole _ _ := rfl
  withConsole_withConsole _ _ _ := rfl
  withConsole_console _ := rfl

instance {σ : Type} : LawfulConsole (Session σ) where
  console_withConsole _ _ := rfl
  withConsole_withConsole _ _ _ := rfl
  withConsole_console _ := rfl

namespace Session

variable {σ : Type} {Good : σ → Prop} {Timed : Clock → Prop} {Fit : Profile → Prop}

def Holds (Good : σ → Prop) (Timed : Clock → Prop) (Fit : Profile → Prop) (s : Session σ) : Prop :=
  Good s.host.store ∧ Timed s.host.clock ∧ Fit s.profile

private theorem indifferent : Console.Indifferent (Holds Good Timed Fit) :=
  fun _ _ holds => holds

variable [RecordStore σ]

/-- Properties of stores, clocks and profiles that each step of a session passes on. -/
structure Upholds (Good : σ → Prop) (Timed : Clock → Prop) (Fit : Profile → Prop) : Prop where
  tick : ∀ c, Timed c → Timed c.tick
  touch : ∀ c p, Timed c → Fit p → Fit (p.touch c.now)
  resume : ∀ c p, Timed c → Fit p → Fit (p.resume c.now)
  award : ∀ p (amount : Int64), Fit p →
    Fit { p with characterXp := p.characterXp + Binary64.ofInt amount.toInt }
  write : ∀ p, Fit p → Task.Keeps Good (RecordStore.write p.id p.toText) fun _ => True

variable (upholds : Upholds Good Timed Fit)
include upholds

private theorem now_keeps :
    Task.Keeps (Holds Good Timed Fit) now fun time => ∃ c, Timed c ∧ time = c.now := by
  unfold now
  refine Task.Keeps.bind Task.Keeps.get fun s holds => ?_
  refine Task.Keeps.bind (Task.Keeps.set ⟨holds.1, upholds.tick _ holds.2.1, holds.2.2⟩)
    fun _ _ => ?_
  exact Task.Keeps.pure ⟨s.host.clock, holds.2.1, rfl⟩

private theorem save_keeps : Task.Keeps (Holds Good Timed Fit) save fun _ => True := by
  unfold save
  refine Task.Keeps.bind (now_keeps upholds) fun time ⟨c, timed, reading⟩ => ?_
  refine Task.Keeps.bind (Task.Keeps.modify fun s holds => ?_) fun _ _ => ?_
  · exact ⟨holds.1, holds.2.1, reading ▸ upholds.touch c s.profile timed holds.2.2⟩
  · refine Task.Keeps.bind Task.Keeps.get fun s holds => ?_
    exact Task.Keeps.within (upholds.write s.profile holds.2.2) (fun t kept => kept.1)
      fun t store kept good => ⟨good, kept.2⟩

private theorem commands_keep : ∀ c ∈ (commands : List (Command (Session σ))),
    Handler.Keeps (Holds Good Timed Fit) c.handler := by
  have saves : ∀ args, (saveCommand args).Keeps (Holds Good Timed Fit) fun _ => True := by
    intro args
    unfold saveCommand
    refine Task.Keeps.bind (Task.Keeps.attempt (save_keeps upholds)) fun outcome _ => ?_
    cases outcome with
    | ok _ => exact Task.Keeps.pure trivial
    | error e =>
      refine Task.Keeps.bind Task.Keeps.get fun s _ => ?_
      exact Task.Keeps.bind Task.Keeps.note fun _ _ => Task.Keeps.pure trivial
  have shows : ∀ args, (statusCommand args).Keeps (Holds Good Timed Fit) fun _ => True := by
    intro args
    unfold statusCommand
    refine Task.Keeps.bind Task.Keeps.get fun s _ => ?_
    split <;> exact Task.Keeps.pure trivial
  have awards : ∀ args, (xpCommand args).Keeps (Holds Good Timed Fit) fun _ => True := by
    intro args
    unfold xpCommand
    split
    · exact Task.Keeps.throw
    · rename_i amount _
      split
      · exact Task.Keeps.pure trivial
      · refine Task.Keeps.bind Task.Keeps.get fun s holds => ?_
        refine Task.Keeps.bind (Task.Keeps.set ?_) fun _ _ => Task.Keeps.pure trivial
        exact ⟨holds.1, holds.2.1, upholds.award s.profile amount holds.2.2⟩
  intro c member
  simp only [commands, List.mem_cons, List.not_mem_nil, or_false] at member
  rcases member with rfl | rfl | rfl
  · exact Handler.keeps_ofTask saves
  · exact Handler.keeps_ofTask shows
  · exact Handler.keeps_ofTask awards

private theorem loop_keeps (settings : Settings) :
    Task.Keeps (Holds Good Timed Fit) (loop settings) fun _ => True := by
  unfold loop
  refine Task.Keeps.bind (Registry.build_keeps settings.overlapPolicy (commands_keep upholds))
    fun registry keeps => ?_
  refine Task.Keeps.bind (now_keeps upholds) fun time ⟨c, timed, reading⟩ => ?_
  refine Task.Keeps.bind (Task.Keeps.modify fun s holds => ?_) fun _ _ => ?_
  · exact ⟨holds.1, holds.2.1, reading ▸ upholds.resume c s.profile timed holds.2.2⟩
  · refine Task.Keeps.bind Task.Keeps.get fun s _ => ?_
    refine Task.Keeps.bind (Console.say_keeps indifferent _) fun _ _ => ?_
    refine Task.Keeps.bind Task.Keeps.note fun _ _ => ?_
    refine Task.Keeps.bind (Shell.run_keeps indifferent keeps _) fun ending _ => ?_
    refine Task.Keeps.bind (save_keeps upholds) fun _ _ => ?_
    refine Task.Keeps.bind (Console.say_keeps indifferent _) fun _ _ => ?_
    exact Task.Keeps.bind Task.Keeps.note fun _ _ => Task.Keeps.pure trivial

theorem play_keeps (settings : Settings) {p : Profile} (fit : Fit p) :
    Task.Keeps (fun host : Host σ => Good host.store ∧ Timed host.clock) (play settings p)
      fun _ => True := by
  intro host holds
  have kept := (loop_keeps upholds settings).state (s := ⟨host, p⟩) ⟨holds.1, holds.2, fit⟩
  exact ⟨⟨kept.1, kept.2.1⟩, fun _ _ => trivial⟩

end Session

end ProfileShell
