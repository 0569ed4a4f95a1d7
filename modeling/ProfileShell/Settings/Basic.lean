import ProfileShell.Command.Registry

/-!
The settings of a host.
-/

set_option autoImplicit false
set_option relaxedAutoImplicit false

namespace ProfileShell

def OverlapPolicy.name : OverlapPolicy → String
  | .reject => "reject"
  | .warn => "warn"
  | .allow => "allow"

def OverlapPolicy.ofName? (name : String) : Option OverlapPolicy :=
  [OverlapPolicy.reject, .warn, .allow].find? fun policy => policy.name == name

/-- What a host can be told about registries, prompts and records. -/
structure Settings where
  /-- The treatment of overlapping signatures. -/
  overlapPolicy : OverlapPolicy
  prompt : String
  sessionPrompt : String
  savesDir : String
  /-- The extension of record files. -/
  recordExtension : String
  deriving DecidableEq

def Settings.standard : Settings where
  overlapPolicy := .reject
  prompt := "> "
  sessionPrompt := ">> "
  savesDir := "saves"
  recordExtension := "json"

end ProfileShell
