import ProfileShell.FileSystem
import ProfileShell.Settings.Text

/-!
The file of a folder that keeps settings.
-/

set_option autoImplicit false
set_option relaxedAutoImplicit false

namespace ProfileShell

structure SettingsFolder where
  files : FileSystem
  folder : Path

namespace SettingsFolder

def fileName : String := "settings.toml"

def path (s : SettingsFolder) : Path :=
  s.folder.join (.ofText fileName)

def load : Task SettingsFolder (Option Settings) := do
  let s ← get
  if s.files.isFile s.path then
    match s.files.readText s.path with
    | .ok text => some <$> Task.ofExcept (Settings.ofText text)
    | .error fault => throw (.system fault)
  else pure none

def save (settings : Settings) : Task SettingsFolder Unit := do
  let s ← get
  match s.files.writeFile s.path settings.toText.toUTF8 with
  | .ok files => set { s with files }
  | .error fault => throw (.system fault)

def reset : Task SettingsFolder Settings := do
  save .standard
  pure .standard

/-- The settings in the file. Where there is no file, or none that can be read, the standard
settings are written and hold. -/
def loadOrReset : Task SettingsFolder Settings := do
  match ← Task.attempt load with
  | .ok (some settings) => pure settings
  | .ok none =>
    let folder := (← get).folder
    Task.note .warn s!"{fileName} not found in {folder.text}; writing defaults"
    reset
  | .error e =>
    Task.note .warn s!"{fileName} is corrupt ({e.message}); overriding with defaults"
    reset

end SettingsFolder

end ProfileShell
