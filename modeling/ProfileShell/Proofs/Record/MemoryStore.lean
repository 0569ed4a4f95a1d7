import ProfileShell.Proofs.Action.Ensures
import ProfileShell.Proofs.Record.Identifier
import ProfileShell.Record.MemoryStore

/-!
What each operation of the memory store answers and leaves.
-/

set_option autoImplicit false
set_option relaxedAutoImplicit false

namespace ProfileShell

theorem TextMap.contains_iff {α : Type} (m : TextMap α) (key : String) :
    m.contains key = true ↔ ∃ value, m.get? key = some value :=
  Option.isSome_iff_exists

namespace MemoryStore

variable (s : MemoryStore) (id : String)

theorem runOn_identifiers :
    (RecordStore.identifiers : Task MemoryStore (List String)).runOn s =
      ⟨.ok s.records.keys, s, []⟩ := rfl

theorem runOn_holds :
    (RecordStore.holds id : Task MemoryStore Bool).runOn s =
      ⟨.ok (s.records.contains id), s, []⟩ := rfl

variable {s id}

theorem runOn_read_of_some {text : String} (found : s.records.get? id = some text) :
    (RecordStore.read id : Task MemoryStore String).runOn s = ⟨.ok text, s, []⟩ := by
  change (MemoryStore.read id).runOn s = _
  unfold MemoryStore.read
  rw [Task.runOn_get_bind]
  simp only [found]
  rfl

theorem runOn_read_of_none (missing : s.records.get? id = none) :
    (RecordStore.read id : Task MemoryStore String).runOn s =
      ⟨.error (.store (.noSuchRecord id)), s, []⟩ := by
  change (MemoryStore.read id).runOn s = _
  unfold MemoryStore.read
  rw [Task.runOn_get_bind]
  simp only [missing]
  rfl

theorem runOn_write_of_valid (valid : Record.isValidIdentifier id = true) (text : String) :
    (RecordStore.write id text : Task MemoryStore Unit).runOn s =
      ⟨.ok (), ⟨s.records.insert id text⟩, []⟩ := by
  change (MemoryStore.write id text).runOn s = _
  unfold MemoryStore.write
  rw [Record.checkIdentifier_of_valid valid]
  rfl

theorem runOn_write_of_invalid (invalid : Record.isValidIdentifier id = false) (text : String) :
    ∃ fault, (RecordStore.write id text : Task MemoryStore Unit).runOn s =
      ⟨.error (.store fault), s, []⟩ := by
  obtain ⟨fault, refused⟩ := Record.checkIdentifier_of_invalid invalid
  refine ⟨fault, ?_⟩
  change (MemoryStore.write id text).runOn s = _
  unfold MemoryStore.write
  rw [refused]
  rfl

theorem runOn_remove_of_contains (present : s.records.contains id = true) :
    (RecordStore.remove id : Task MemoryStore Unit).runOn s =
      ⟨.ok (), ⟨s.records.erase id⟩, []⟩ := by
  change (MemoryStore.remove id).runOn s = _
  unfold MemoryStore.remove
  rw [Task.runOn_get_bind, if_pos present]
  rfl

theorem runOn_remove_of_not_contains (absent : s.records.contains id = false) :
    (RecordStore.remove id : Task MemoryStore Unit).runOn s =
      ⟨.error (.store (.noSuchRecord id)), s, []⟩ := by
  change (MemoryStore.remove id).runOn s = _
  unfold MemoryStore.remove
  rw [Task.runOn_get_bind, if_neg (by simp [absent])]
  rfl

end MemoryStore

end ProfileShell
