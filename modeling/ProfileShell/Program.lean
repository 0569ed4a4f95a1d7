import ProfileShell.Launcher
import ProfileShell.Record.DirectoryStore
import ProfileShell.Settings.File

/-!
The whole program: find the working directory, load its settings, and launch over its records.
-/

set_option autoImplicit false
set_option relaxedAutoImplicit false

namespace ProfileShell

structure Machine where
  files : FileSystem
  console : Console
  clock : Clock

structure Invocation where
  /-- The first argument. -/
  argument : Option String
  /-- The variables of the environment. -/
  environment : String → Option String

namespace Program

/-- The path of the working directory: the argument, the variable for it, or a folder in the user's
home. -/
def workingDirectory (call : Invocation) : Option Path :=
  match call.argument, call.environment "CLIENGINE_HOME" with
  | some path, _ => some (.ofText path)
  | none, some path => some (.ofText path)
  | none, none =>
    ((call.environment "HOME").or (call.environment "USERPROFILE")).map fun home =>
      (Path.ofText home).join (.ofText "cliengine")

def onSettings {α : Type} (folder : Path) (x : Task SettingsFolder α) : Task Machine α :=
  Task.within (fun m => ⟨m.files, folder⟩) (fun s m => { m with files := s.files }) x

def launcher (folder : Path) (settings : Settings) (m : Machine) : Launcher DirectoryStore :=
  ⟨⟨.create m.files folder settings.recordExtension, m.console, m.clock⟩, settings⟩

def onLauncher {α : Type} (folder : Path) (settings : Settings)
    (x : Task (Launcher DirectoryStore) α) : Task Machine α :=
  Task.within (launcher folder settings)
    (fun l _ => ⟨l.host.store.files, l.host.console, l.host.clock⟩) x

def createFolder (folder : Path) : Task Machine Unit := do
  let m ← get
  let (files, created) := m.files.createFolders folder
  set { m with files }
  match created with
  | .ok () => pure ()
  | .error fault => throw (.system fault)

def run (call : Invocation) : Task Machine Unit := do
  match workingDirectory call with
  | none =>
    throw (.config "cannot locate the home directory; pass a working directory argument")
  | some home =>
    createFolder home
    Task.note .info s!"Working directory: {home.text}"
    let settings ← onSettings home SettingsFolder.loadOrReset
    let saves := home.join (.ofText settings.savesDir)
    Task.note .debug s!"Saves directory: {saves.text}"
    let _ ← onLauncher saves settings Launcher.run

end Program

end ProfileShell
