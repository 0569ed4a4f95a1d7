import ProfileShell.Proofs.Launcher.Agreement
import ProfileShell.Proofs.Launcher.Invariance
import ProfileShell.Proofs.Profile.Progress
import ProfileShell.Proofs.Record.WellFormed

/-!
The store stays well formed during a launcher run.

What a run does in between is seen by running it over a chronicle, a memory store that remembers
every state it has been in. Over a chronicle the launcher does the same as over the store alone, and
each remembered state is well formed.
-/

set_option autoImplicit false
set_option relaxedAutoImplicit false

namespace ProfileShell

/-- A memory store with its earlier states, the last first. -/
structure Chronicle where
  current : MemoryStore
  past : List MemoryStore

namespace Chronicle

variable {α : Type}

def states (c : Chronicle) : List MemoryStore :=
  c.current :: c.past

def remembering (x : Task MemoryStore α) : Task Chronicle α :=
  Task.within Chronicle.current (fun s c => ⟨s, c.states⟩) x

instance : RecordStore Chronicle where
  identifiers := remembering MemoryStore.identifiers
  holds id := remembering (MemoryStore.holds id)
  read id := remembering (MemoryStore.read id)
  write id text := remembering (MemoryStore.write id text)
  remove id := remembering (MemoryStore.remove id)

def Follows (c : Chronicle) (s : MemoryStore) : Prop :=
  c.current = s

private theorem remembering_agrees (x : Task MemoryStore α) :
    Task.Agrees Follows (remembering x) x := by
  rintro c _ rfl
  exact ⟨rfl, rfl⟩

theorem agree : RecordStore.Agree Follows where
  identifiers := remembering_agrees _
  holds _ := remembering_agrees _
  freeIdentifier _ := Task.Agrees.bind (remembering_agrees _) fun _ => Task.Agrees.pure _
  read _ := remembering_agrees _
  write _ _ := remembering_agrees _
  remove _ := remembering_agrees _

def All (Good : MemoryStore → Prop) (c : Chronicle) : Prop :=
  ∀ s ∈ c.states, Good s

variable {Good : MemoryStore → Prop} {Timed : Clock → Prop} {Fit : Profile → Prop}

private theorem remembering_keeps {P : α → Prop} {x : Task MemoryStore α}
    (keeps : Task.Keeps Good x P) : Task.Keeps (All Good) (remembering x) P :=
  Task.Keeps.within keeps (fun _ all => all _ List.mem_cons_self)
    fun _ _ all good => List.forall_mem_cons.mpr ⟨good, all⟩

private theorem upholds (steps : Launcher.Upholds Good Timed Fit) :
    Launcher.Upholds (All Good) Timed Fit where
  tick := steps.tick
  touch := steps.touch
  resume := steps.resume
  award := steps.award
  write p fit := remembering_keeps (steps.write p fit)
  identifiers := remembering_keeps steps.identifiers
  holds id := remembering_keeps (steps.holds id)
  freeIdentifier _ :=
    Task.Keeps.bind (remembering_keeps steps.identifiers) fun _ _ => Task.Keeps.pure trivial
  read id := remembering_keeps (steps.read id)
  remove id := remembering_keeps (steps.remove id)
  new := steps.new
  loaded := steps.loaded
  renamed := steps.renamed

end Chronicle

private theorem MemoryStore.read_keeps {Good : MemoryStore → Prop} (id : String) :
    Task.Keeps Good (RecordStore.read id) fun _ => True := by
  intro s good
  unfold Task.Ensures
  cases found : s.records.get? id with
  | some text =>
    rw [runOn_read_of_some found]
    exact ⟨good, fun _ _ => trivial⟩
  | none =>
    rw [runOn_read_of_none found]
    exact ⟨good, fun _ _ => trivial⟩

namespace Launcher

private theorem upholds_wellFormed :
    Upholds MemoryStore.WellFormed Clock.IsTimely Profile.Writable where
  tick _ timely := timely.tick
  touch _ _ timely writable := writable.touch timely.within_now
  resume _ _ timely writable := writable.resume timely.within_now.isFinite
  award _ amount writable := writable.award amount
  write _ writable := MemoryStore.WellFormed.write_keeps writable
  identifiers _ wellFormed := ⟨wellFormed, fun _ _ => trivial⟩
  holds _ _ wellFormed := ⟨wellFormed, fun _ _ => trivial⟩
  freeIdentifier _ _ wellFormed := ⟨wellFormed, fun _ _ => trivial⟩
  read := MemoryStore.read_keeps
  remove := MemoryStore.WellFormed.remove_keeps
  new := Profile.writable_new
  loaded _ _ := Profile.writable_of_ofText
  renamed _ id name writable := writable.renamed id name

def chronicled (l : Launcher MemoryStore) : Launcher Chronicle :=
  ⟨⟨⟨l.host.store, []⟩, l.host.console, l.host.clock⟩, l.settings⟩

/-- A run from a well-formed store with a timely clock goes through well-formed stores only and ends
with one, and in each of them a listing reports every record. -/
theorem run_wellFormed (l : Launcher MemoryStore) (wellFormed : l.host.store.WellFormed)
    (timely : l.host.clock.IsTimely) :
    let run := Launcher.run.runOn l
    let observed := Launcher.run.runOn l.chronicled
    observed.answer = run.answer ∧ Related Chronicle.Follows observed.state run.state ∧
      run.state.host.store.WellFormed ∧
      ∀ s ∈ observed.state.host.store.states, s.WellFormed ∧
        ∃ summaries, (Profile.list.runOn s).answer = .ok summaries ∧
          summaries.map ProfileSummary.id = s.records.keys := by
  -- The chronicle's launcher shows the states in between, the launcher's own run the last one.
  have related : Related Chronicle.Follows l.chronicled l := ⟨⟨rfl, rfl, rfl⟩, rfl⟩
  have same := run_agrees Chronicle.agree _ _ related
  have start : Holds (Chronicle.All MemoryStore.WellFormed) Clock.IsTimely l.chronicled :=
    ⟨List.forall_mem_singleton.mpr wellFormed, timely⟩
  have kept := (run_keeps (Chronicle.upholds upholds_wellFormed)).state start
  refine ⟨same.1, same.2, ?_, fun s member => ?_⟩
  · exact (run_keeps upholds_wellFormed).state ⟨wellFormed, timely⟩ |>.1
  · have good := kept.1 s member
    obtain ⟨-, summaries, answered, all⟩ := Profile.list_ensures_of_wellFormed good
    exact ⟨good, summaries, answered, all⟩

def firstProfile : Launcher MemoryStore :=
  ⟨⟨.empty, .ofInput [.line "new Ada ada", .failure .notUtf8], .regular 1700000000000 0⟩,
    .standard⟩

theorem run_wellFormed_firstProfile :
    firstProfile.host.store.WellFormed ∧ firstProfile.host.clock.IsTimely ∧
      (Launcher.run.runOn firstProfile).state.host.store.records.keys = ["ada"] ∧
      ∀ s ∈ (Launcher.run.runOn firstProfile.chronicled).state.host.store.states,
        s.WellFormed := by
  have timely : firstProfile.host.clock.IsTimely := by
    intro i
    change ((1700000000000 : Int) + i * 0) * 1000000 < 2 ^ 64 * 10 ^ 9
    omega
  have run := run_wellFormed firstProfile MemoryStore.wellFormed_empty timely
  exact ⟨MemoryStore.wellFormed_empty, timely, by decide +kernel,
    fun s member => (run.2.2.2 s member).1⟩

end Launcher

end ProfileShell
