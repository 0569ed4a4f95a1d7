import ProfileShell.Console.Question
import ProfileShell.Session

/-!
The launcher: the loop in which profiles are managed and played.
-/

set_option autoImplicit false
set_option relaxedAutoImplicit false

namespace ProfileShell

structure Launcher (σ : Type) where
  host : Host σ
  settings : Settings

instance {σ : Type} : HasConsole (Launcher σ) where
  console l := l.host.console
  withConsole console l := { l with host := { l.host with console } }

namespace Launcher

variable {σ α : Type} [RecordStore σ]

def onHost (x : Task (Host σ) α) : Task (Launcher σ) α :=
  Task.within Launcher.host (fun host l => { l with host }) x

def onStore (x : Task σ α) : Task (Launcher σ) α :=
  onHost (Host.onStore x)

inductive IdentifierChoice
  | accepted (id : String)
  /-- The identifier given with the command cannot be used. -/
  | rejected (problem : String)
  | interrupted

def unusableIdentifier : String :=
  "Profile ID must be non-empty and must not contain path separators."

def takenIdentifier : String :=
  "Profile ID taken, please choose another one."

/-- Take off a record extension that was typed with an identifier. -/
def stripExtension (settings : Settings) (input : String) : String :=
  (Record.stem? input settings.recordExtension).getD input

def profileIdentifier (args : Arguments) : Task (Launcher σ) String := do
  match args.text? "profile_id" with
  | none => throw (.handler "profile_id was not bound")
  | some input => pure (stripExtension (← get).settings input)

/-- Why an identifier cannot be given to a profile, whose identifier so far may be kept. -/
def identifierProblem (id : String) (current : Option String) :
    Task (Launcher σ) (Option String) := do
  if !Record.isValidIdentifier id then pure (some unusableIdentifier)
  else if current = some id then pure none
  else if ← onStore (RecordStore.holds id) then pure (some takenIdentifier)
  else pure none

/-- Judge a typed identifier; a blank answer takes the suggested one. -/
def judgeIdentifier (suggested : String) (current : Option String) (answer : String) :
    Task (Launcher σ) (Except String String) := do
  let typed := Text.trim answer
  let id := if typed.isEmpty then suggested else typed
  match ← identifierProblem id current with
  | some problem => pure (.error problem)
  | none => pure (.ok id)

/-- Choose an identifier: the one given with the command, or one that is asked for. -/
def chooseIdentifier (given : Option String) (suggested : String) (current : Option String) :
    Task (Launcher σ) IdentifierChoice := do
  match given with
  | some text =>
    let id := Text.trim text
    match ← identifierProblem id current with
    | some problem => pure (.rejected problem)
    | none => pure (.accepted id)
  | none =>
    Console.say "Please enter the ID of the profile."
    Console.say s!"Leave empty for auto-generated one: '{suggested}'"
    match ← Console.ask (judgeIdentifier suggested current) with
    | some id => pure (.accepted id)
    | none => pure .interrupted

def chooseName (args : Arguments) (question : String) : Task (Launcher σ) (Option String) := do
  let given := Text.trim ((args.text? "name").getD "")
  if given.isEmpty then
    Console.say question
    Console.askNonblank
  else pure (some given)

def listCommand (_ : Arguments) : Task (Launcher σ) Reply := do
  let profiles ← onStore Profile.list
  if profiles.isEmpty then pure (.succeededWith "No profile available.")
  else
    let text := "Available profiles:" ++
      String.join (profiles.map fun p => s!"\n - {p.name} ({p.id})")
    pure ((Reply.succeededWith text).add "count" (.int profiles.length))

def newCommand (args : Arguments) : Task (Launcher σ) Reply := do
  match ← chooseName args "Please enter the name of the profile." with
  | none => pure .interrupted
  | some name =>
    let suggested ← onStore (Profile.suggestIdentifier name)
    match ← chooseIdentifier (args.text? "id") suggested none with
    | .rejected problem => pure (.failedWith problem)
    | .interrupted => pure .interrupted
    | .accepted id =>
      match ← Task.attempt (onStore (Profile.create id name)) with
      | .ok _ =>
        pure ((Reply.succeededWith s!"Successfully created profile '{id}'.").addText
          "profile_id" id)
      | .error e =>
        Task.note .warn s!"creating profile {id} failed: {e.message}"
        pure (.failedWith ("Failed to create profile: " ++ e.message))

def isKnown (id : String) : Task (Launcher σ) Bool := do
  if Record.isValidIdentifier id then onStore (RecordStore.holds id) else pure false

def runCommand (args : Arguments) : Task (Launcher σ) Reply := do
  let id ← profileIdentifier args
  if !(← isKnown id) then pure (.failedWith s!"Failed to load: profile not found: {id}.")
  else
    match ← Task.attempt (onStore (Profile.load id)) with
    | .error e =>
      Task.note .warn s!"loading profile {id} failed: {e.message}"
      pure (.failedWith s!"Failed to load: profile has invalid data ({e.message}).")
    | .ok p =>
      let settings := (← get).settings
      let _ ← onHost (Session.play settings p)
      pure (Reply.success.addText "profile_id" id)

def confirmRemoval (id : String) : Task (Launcher σ) (Option Bool) := do
  Console.say s!"Are you sure you want to delete profile '{id}'?"
  Console.say
    "This profile will be deleted immediately. You can't undo this action. (y/N)"
  Console.askYesNo

def removeCommand (args : Arguments) : Task (Launcher σ) Reply := do
  let id ← profileIdentifier args
  if !(← isKnown id) then pure (.failedWith s!"Failed to remove: profile not found: {id}.")
  else
    let confirmed ←
      match args.boolean? "confirm" with
      | some confirmed => pure (some confirmed)
      | none => confirmRemoval id
    match confirmed with
    | none => pure .interrupted
    | some false => pure (.failedWith "Canceled.")
    | some true =>
      onStore (Profile.remove id)
      pure ((Reply.succeededWith s!"Deleted profile '{id}'!").addText "profile_id" id)

def renameCommand (args : Arguments) : Task (Launcher σ) Reply := do
  let oldId ← profileIdentifier args
  if !(← isKnown oldId) then
    pure (.failedWith s!"Failed to rename: profile not found: {oldId}.")
  else
    match ← Task.attempt (onStore (Profile.load oldId)) with
    | .error e =>
      Task.note .warn s!"loading profile {oldId} failed: {e.message}"
      pure (.failedWith s!"Failed to rename: profile has invalid data ({e.message}).")
    | .ok old =>
      Console.say s!"Original profile name: '{old.name}'"
      Console.say s!"Original profile ID: '{oldId}'"
      match ← chooseName args "Please enter the new name for this profile." with
      | none => pure .interrupted
      | some newName =>
        let suggested ← onStore (Profile.suggestIdentifier newName)
        match ← chooseIdentifier (args.text? "new_id") suggested (some oldId) with
        | .rejected problem => pure (.failedWith problem)
        | .interrupted => pure .interrupted
        | .accepted newId =>
          match ← Task.attempt (onStore (Profile.rename oldId newId newName)) with
          | .ok _ =>
            pure ((Reply.succeededWith
              s!"Renamed profile '{old.name}' ({oldId}) to '{newName}' ({newId}).").addText
                "profile_id" newId)
          | .error e =>
            Task.note .warn s!"renaming profile {oldId} to {newId} failed: {e.message}"
            pure (.failedWith ("Failed to rename profile: " ++ e.message))

def commands : List (Command (Launcher σ)) :=
  [.define "list" ["ls"] [] "List the available profiles." (.ofTask listCommand),
    .define "new" ["init"] [.optional "name" .text, .optional "id" .text]
      "Create a new profile. Missing name or ID is prompted for." (.ofTask newCommand),
    .define "run" ["play"] [.needed "profile_id" .text]
      "Play the selected profile by ID." (.ofTask runCommand),
    .define "rm" ["del"] [.needed "profile_id" .text, .optional "confirm" .boolean]
      "Delete the selected profile by ID." (.ofTask removeCommand),
    .define "mv" ["rename"]
      [.needed "profile_id" .text, .optional "name" .text, .optional "new_id" .text]
      "Rename the selected profile by ID. Missing name or ID is prompted for."
      (.ofTask renameCommand)]

/-- Manage profiles until an exit or the end of input. -/
def run : Task (Launcher σ) Shell.LoopEnd := do
  let settings := (← get).settings
  let registry ← Registry.build settings.overlapPolicy commands
  Console.say "Game Launcher Running."
  let ending ← Shell.run registry settings.prompt
  if ending = .endOfInput then Console.say "Process interrupted."
  pure ending

end Launcher

end ProfileShell
