import ProfileShell.Profile.Naming
import ProfileShell.Profile.Record
import ProfileShell.Record.Store
import ProfileShell.Text.Blank

/-!
Profiles in a record store: create, load, save, rename, remove and list.
-/

set_option autoImplicit false
set_option relaxedAutoImplicit false

namespace ProfileShell.Profile

variable {σ : Type} [RecordStore σ]

/-- An identifier for a profile of a name: its snake-case form, made free in the store. -/
def suggestIdentifier (name : String) : Task σ String :=
  RecordStore.freeIdentifier (snakeCase (Text.trim name))

def save (p : Profile) : Task σ Unit :=
  RecordStore.write p.id p.toText

def create (id name : String) : Task σ Profile := do
  Task.ofExcept (Record.checkIdentifier id)
  if ← RecordStore.holds id then throw (.store (.identifierTaken id))
  let p := Profile.new id name
  save p
  Task.note .info s!"created profile {id}"
  pure p

/-- The profile stored under an identifier, which takes the place of the one in the record. -/
def load (id : String) : Task σ Profile := do
  let text ← RecordStore.read id
  let p ← Task.ofExcept (ofText text)
  if p.id ≠ id then
    Task.note .warn s!"record {id} carries profile id {p.id}; using {id}"
  pure { p with id }

/-- Give a stored profile another identifier and name. The new record is written before the old one
is removed; an identifier of another profile is refused before anything changes. -/
def rename (oldId newId newName : String) : Task σ Profile := do
  Task.ofExcept (Record.checkIdentifier newId)
  let p ← load oldId
  if newId ≠ oldId then
    if ← RecordStore.holds newId then throw (.store (.identifierTaken newId))
  let renamed := { p with id := newId, name := newName }
  save renamed
  if newId ≠ oldId then RecordStore.remove oldId
  Task.note .info s!"renamed profile {oldId} to {newId}"
  pure renamed

def remove (id : String) : Task σ Unit := do
  RecordStore.remove id
  Task.note .info s!"removed profile {id}"

/-- The summaries of the readable profiles among some identifiers, in their order. -/
def summarize : List String → Task σ (List ProfileSummary)
  | [] => pure []
  | id :: ids => do
    match ← Task.attempt (load id) with
    | .ok p => return ⟨id, p.name⟩ :: (← summarize ids)
    | .error e =>
      Task.note .warn s!"skipping unreadable profile {id}: {e.message}"
      summarize ids

/-- The summaries of all readable profiles, in ascending order of their identifiers. -/
def list : Task σ (List ProfileSummary) := do
  let ids ← RecordStore.identifiers
  summarize (ids.mergeSort fun a b => decide (a ≤ b))

end ProfileShell.Profile
