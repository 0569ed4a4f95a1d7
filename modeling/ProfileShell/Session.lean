import ProfileShell.Clock
import ProfileShell.Profile.Workflow
import ProfileShell.Settings.Basic
import ProfileShell.Shell

/-!
A play session: the loop in which one profile is played.
-/

set_option autoImplicit false
set_option relaxedAutoImplicit false

namespace ProfileShell

structure Host (σ : Type) where
  store : σ
  console : Console
  clock : Clock

instance {σ : Type} : HasConsole (Host σ) where
  console h := h.console
  withConsole console h := { h with console }

structure Session (σ : Type) where
  host : Host σ
  profile : Profile

instance {σ : Type} : HasConsole (Session σ) where
  console s := s.host.console
  withConsole console s := { s with host := { s.host with console } }

namespace Host

variable {σ α : Type}

def onStore (x : Task σ α) : Task (Host σ) α :=
  Task.within Host.store (fun store h => { h with store }) x

end Host

namespace Session

variable {σ α : Type} [RecordStore σ]

def onStore (x : Task σ α) : Task (Session σ) α :=
  Task.within (fun s => s.host.store)
    (fun store s => { s with host := { s.host with store } }) x

def now : Task (Session σ) Binary64 := do
  let s ← get
  set { s with host := { s.host with clock := s.host.clock.tick } }
  pure s.host.clock.now

/-- Count the playtime up to now and write the profile. -/
def save : Task (Session σ) Unit := do
  let time ← now
  modify fun s => { s with profile := s.profile.touch time }
  onStore (Profile.save (← get).profile)

def saveCommand (_ : Arguments) : Task (Session σ) Reply := do
  match ← Task.attempt save with
  | .ok () => pure (.succeededWith "Saved!")
  | .error e =>
    let id := (← get).profile.id
    Task.note .warn s!"saving profile {id} failed: {e.message}"
    pure (.failedWith ("Failed to save: " ++ e.message))

def statusText (p : Profile) : String :=
  s!"Profile: {p.name} ({p.id})\nMode: {p.gamemode}, difficulty: {p.difficulty}\n" ++
    s!"Character XP: {p.characterXp.toText}" ++
    String.join (p.skillXp.entries.map fun e => s!"\n  {e.1}: {e.2.toText}") ++
    s!"\nQuests in progress: {p.questStages.size}" ++
    s!"\nAchievements: {p.achievements.values.countP (fun unlocked => unlocked)}" ++
    s!"\nItems: {p.inventory.length}" ++
    s!"\nPlaytime: {p.totalPlaytime.floor.toText}s"

def statusCommand (args : Arguments) : Task (Session σ) Reply := do
  let p := (← get).profile
  match args.text? "skill" with
  | some skill =>
    let xp := (p.skillXp.get? skill).getD .zero
    pure ((Reply.succeededWith s!"{skill}: {xp.toText}").add "skill_xp" (.number xp))
  | none => pure (.succeededWith (statusText p))

def xpCommand (args : Arguments) : Task (Session σ) Reply := do
  match args.integer? "amount" with
  | none => throw (.handler "amount was not bound")
  | some amount =>
    if amount.toInt ≤ 0 then pure (.failedWith "XP amount must be positive.")
    else
      let s ← get
      let total := s.profile.characterXp + Binary64.ofInt amount.toInt
      set { s with profile := { s.profile with characterXp := total } }
      pure ((Reply.succeededWith s!"Gained {amount.toInt} XP ({total.toText} total).").add
        "character_xp" (.number total))

def commands : List (Command (Session σ)) :=
  [.define "save" [] [] "Save profile data." (.ofTask saveCommand),
    .define "status" ["stats"] [.optional "skill" .text]
      "Show the profile's progress, or the XP of one skill." (.ofTask statusCommand),
    .define "xp" [] [.needed "amount" .integer] "Award character experience."
      (.ofTask xpCommand)]

/-- Play the profile at hand until an exit or the end of input, then save it. A reading that fails
ends the session without saving. -/
def loop (settings : Settings) : Task (Session σ) Shell.LoopEnd := do
  let registry ← Registry.build settings.overlapPolicy commands
  let time ← now
  modify fun s => { s with profile := s.profile.resume time }
  let id := (← get).profile.id
  Console.say ("Running game profile: " ++ id)
  Task.note .info s!"session started for profile {id}"
  let ending ← Shell.run registry settings.sessionPrompt
  save
  Console.say "Saved!"
  Task.note .info s!"session ended for profile {id} ({ending.name})"
  pure ending

def play (settings : Settings) (p : Profile) : Task (Host σ) Shell.LoopEnd := fun host =>
  let played := Action.run (loop settings).run ⟨host, p⟩
  ⟨played.answer, played.state.host, played.log⟩

end Session

end ProfileShell
