import ProfileShell.Record.Allocation

/-!
Stores of records: texts under identifiers.

A store may fail at any operation. Whether an identifier is taken and which one is free are
answered from the list of identifiers, unless a store knows a more direct way.
-/

set_option autoImplicit false
set_option relaxedAutoImplicit false

namespace ProfileShell

/-- The operations of a store whose state is a `σ`. -/
class RecordStore (σ : Type) where
  identifiers : Task σ (List String)
  holds : String → Task σ Bool := fun id => do
    let ids ← identifiers
    pure (ids.contains id)
  freeIdentifier : String → Task σ String := fun base => do
    let ids ← identifiers
    pure (Record.allocate base ids)
  read : String → Task σ String
  write : String → String → Task σ Unit
  remove : String → Task σ Unit

end ProfileShell
