import ProfileShell.Record.Store

/-!
A store that holds its records in memory, and one that refuses some of its operations.
-/

set_option autoImplicit false
set_option relaxedAutoImplicit false

namespace ProfileShell

structure MemoryStore where
  records : TextMap String
  deriving DecidableEq

namespace MemoryStore

def empty : MemoryStore := ⟨.empty⟩

def identifiers : Task MemoryStore (List String) := do
  return (← get).records.keys

def holds (id : String) : Task MemoryStore Bool := do
  return (← get).records.contains id

def read (id : String) : Task MemoryStore String := do
  match (← get).records.get? id with
  | some text => pure text
  | none => throw (.store (.noSuchRecord id))

def write (id text : String) : Task MemoryStore Unit := do
  Task.ofExcept (Record.checkIdentifier id)
  modify fun s => ⟨s.records.insert id text⟩

def remove (id : String) : Task MemoryStore Unit := do
  let s ← get
  if s.records.contains id then set (MemoryStore.mk (s.records.erase id))
  else throw (.store (.noSuchRecord id))

instance : RecordStore MemoryStore where
  identifiers := identifiers
  holds := holds
  read := read
  write := write
  remove := remove

end MemoryStore

inductive StoreOperation
  | list
  | read
  | write
  | remove
  deriving DecidableEq

def StoreOperation.name : StoreOperation → String
  | .list => "list"
  | .read => "read"
  | .write => "write"
  | .remove => "remove"

/-- A memory store that refuses some operations. -/
structure RefusingStore where
  inner : MemoryStore
  refused : List StoreOperation
  deriving DecidableEq

namespace RefusingStore

/-- Do a task on the inner store, unless its operation is refused. -/
def guarded {α : Type} (operation : StoreOperation) (x : Task MemoryStore α) :
    Task RefusingStore α := do
  if (← get).refused.contains operation then throw (.store (.refused operation.name))
  else Task.within inner (fun inner s => { s with inner }) x

instance : RecordStore RefusingStore where
  identifiers := guarded .list MemoryStore.identifiers
  read id := guarded .read (MemoryStore.read id)
  write id text := guarded .write (MemoryStore.write id text)
  remove id := guarded .remove (MemoryStore.remove id)

end RefusingStore

end ProfileShell
