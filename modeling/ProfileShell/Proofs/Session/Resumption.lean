import ProfileShell.Proofs.Launcher.Agreement
import ProfileShell.Proofs.Session
import ProfileShell.Record.MemoryStore

/-!
A session does not depend on when its profile was last saved.

A session overwrites the time of the last activity before anything reads it, so profiles that differ
in this time only are played in the same way, down to the texts that are written. These texts are
seen over a store that keeps a list of what it is asked to write.
-/

set_option autoImplicit false
set_option relaxedAutoImplicit false

namespace ProfileShell

/-- A store with a list of the identifiers and texts that it was asked to write, in order. -/
structure Transcribed (σ : Type) where
  store : σ
  written : List (String × String)

namespace Transcribed

variable {σ α : Type}

def onStore (x : Task σ α) : Task (Transcribed σ) α :=
  Task.within Transcribed.store (fun store t => { t with store }) x

variable [RecordStore σ]

def write (id text : String) : Task (Transcribed σ) Unit := do
  modify fun t => { t with written := t.written ++ [(id, text)] }
  onStore (RecordStore.write id text)

instance : RecordStore (Transcribed σ) where
  identifiers := onStore RecordStore.identifiers
  holds id := onStore (RecordStore.holds id)
  freeIdentifier base := onStore (RecordStore.freeIdentifier base)
  read id := onStore (RecordStore.read id)
  write := write
  remove id := onStore (RecordStore.remove id)

def Follows (t : Transcribed σ) (s : σ) : Prop :=
  t.store = s

omit [RecordStore σ] in
private theorem onStore_agrees (x : Task σ α) : Task.Agrees Follows (onStore x) x := by
  rintro t _ rfl
  exact ⟨rfl, rfl⟩

private theorem agree : RecordStore.Agree (Follows (σ := σ)) where
  identifiers := onStore_agrees _
  holds _ := onStore_agrees _
  freeIdentifier _ := onStore_agrees _
  read _ := onStore_agrees _
  write _ _ := by
    rintro t _ rfl
    exact ⟨rfl, rfl⟩
  remove _ := onStore_agrees _

end Transcribed

def Host.transcribed {σ : Type} (host : Host σ) : Host (Transcribed σ) :=
  ⟨⟨host.store, []⟩, host.console, host.clock⟩

namespace Session

variable {σ : Type} [RecordStore σ]

def writings (settings : Settings) (p : Profile) (host : Host σ) : List (String × String) :=
  ((play settings p).runOn host.transcribed).state.store.written

theorem play_transcribed_agrees (settings : Settings) (p : Profile) (host : Host σ) :
    Action.AgreesAt (Host.Related Transcribed.Follows) (play settings p).run (play settings p).run
      host.transcribed host :=
  play_agrees Transcribed.agree settings p _ _ ⟨rfl, rfl, rfl⟩

omit [RecordStore σ] in
private theorem runOn_now (host : Host σ) (p : Profile) :
    Task.runOn now ⟨host, p⟩ =
      ⟨.ok host.clock.now, ⟨{ host with clock := host.clock.tick }, p⟩, []⟩ := rfl

omit [RecordStore σ] in
private theorem runOn_modify (f : Session σ → Session σ) (s : Session σ) :
    Task.runOn (modify f : Task (Session σ) PUnit) s = ⟨.ok (), f s, []⟩ := rfl

private theorem runOn_play (settings : Settings) (p : Profile) (host : Host σ) :
    (play settings p).runOn host =
      ⟨((loop settings).runOn ⟨host, p⟩).answer, ((loop settings).runOn ⟨host, p⟩).state.host,
        ((loop settings).runOn ⟨host, p⟩).log⟩ := rfl

private theorem runOn_play_eq_of_resume_eq (settings : Settings) {p q : Profile}
    (resumed : ∀ time, p.resume time = q.resume time) (host : Host σ) :
    (play settings p).runOn host = (play settings q).runOn host := by
  rw [runOn_play, runOn_play]
  unfold loop
  cases built : (Registry.ofCommands settings.overlapPolicy (commands (σ := σ))).answer with
  | error e =>
    -- Nothing is resumed, but the profile is given up with the loop.
    rw [Task.runOn_bind_of_error (Registry.runOn_build_of_error built _),
      Task.runOn_bind_of_error (Registry.runOn_build_of_error built _)]
  | ok _ =>
    rw [Task.runOn_bind_of_ok (Registry.runOn_build_of_ok built _),
      Task.runOn_bind_of_ok (Registry.runOn_build_of_ok built _),
      Task.runOn_bind_of_ok (runOn_now host p), Task.runOn_bind_of_ok (runOn_now host q),
      Task.runOn_bind_of_ok (runOn_modify _ _), Task.runOn_bind_of_ok (runOn_modify _ _)]
    simp only [resumed]

/-- Of two profiles that differ only in the time of their last save, each is played as the other:
with the same readings, lines, answer and store, and with the same texts written in the same order.
-/
theorem play_ignores_lastUpdated (settings : Settings) {p q : Profile}
    (same : { p with lastUpdated := q.lastUpdated } = q) (host : Host σ) :
    (play settings p).runOn host = (play settings q).runOn host ∧
      writings settings p host = writings settings q host := by
  have resumed : ∀ time, p.resume time = q.resume time := by
    intro time
    rw [← same]
    rfl
  refine ⟨runOn_play_eq_of_resume_eq settings resumed host, ?_⟩
  unfold writings
  rw [runOn_play_eq_of_resume_eq settings resumed host.transcribed]

def training : Host MemoryStore :=
  ⟨.empty, .ofInput [.line "xp 5", .line "save", .line "xp 7"], .regular 1700000000000 2500⟩

def savedAhead : Profile :=
  { Profile.new "ada" "Ada" with lastUpdated := Binary64.ofInt 1900000000 }

/-- The profile that was saved ahead is played as the one that has never been played. -/
theorem play_ignores_lastUpdated_savedAhead :
    { Profile.new "ada" "Ada" with lastUpdated := savedAhead.lastUpdated } = savedAhead ∧
      (play .standard (Profile.new "ada" "Ada")).runOn training =
        (play .standard savedAhead).runOn training ∧
      writings .standard (Profile.new "ada" "Ada") training =
        writings .standard savedAhead training ∧
      (writings .standard savedAhead training).map Prod.fst = ["ada", "ada"] := by
  have same :
      { Profile.new "ada" "Ada" with lastUpdated := savedAhead.lastUpdated } = savedAhead := by
    simp only [savedAhead]
  have alike := play_ignores_lastUpdated .standard same training
  exact ⟨same, alike.1, alike.2, by decide +kernel⟩

end Session

end ProfileShell
