import ProfileShell.Proofs.Action.Invariance
import ProfileShell.Proofs.Profile.Record
import ProfileShell.Proofs.Profile.Workflow

/-!
Well-formed stores.

In a well-formed store every record lies under a valid identifier, and its text is accepted as a
profile with that identifier. Writing a profile under its own identifier and removing a record keep
a store well formed, and a listing leaves out none of its records.
-/

set_option autoImplicit false
set_option relaxedAutoImplicit false

namespace ProfileShell

open ProfileShell.Task (Ensures)

/-- Every record lies under a valid identifier and is accepted with it. -/
structure MemoryStore.WellFormed (s : MemoryStore) : Prop where
  valid : ∀ id text, s.records.get? id = some text → Record.isValidIdentifier id = true
  readable : ∀ id text, s.records.get? id = some text →
    ∃ p, Profile.ofText text = .ok p ∧ p.id = id

namespace MemoryStore

variable {s : MemoryStore}

theorem wellFormed_empty : empty.WellFormed where
  valid _ _ impossible := by cases impossible
  readable _ _ impossible := by cases impossible

private theorem WellFormed.insert (wellFormed : s.WellFormed) {p : Profile} (writable : p.Writable)
    (valid : Record.isValidIdentifier p.id = true) :
    WellFormed ⟨s.records.insert p.id p.toText⟩ := by
  constructor
  · intro id text found
    rw [TextMap.get?_insert] at found
    split at found
    · rename_i same
      exact same ▸ valid
    · exact wellFormed.valid id text found
  · intro id text found
    rw [TextMap.get?_insert] at found
    split at found
    · rename_i same
      cases found
      exact ⟨p.reread, Profile.ofText_toText writable, same.symm⟩
    · exact wellFormed.readable id text found

private theorem WellFormed.erase (wellFormed : s.WellFormed) (id : String) :
    WellFormed ⟨s.records.erase id⟩ := by
  have kept : ∀ key text, (s.records.erase id).get? key = some text →
      s.records.get? key = some text := by
    intro key text found
    rw [TextMap.get?_erase] at found
    split at found
    · cases found
    · exact found
  exact ⟨fun key text found => wellFormed.valid key text (kept key text found),
    fun key text found => wellFormed.readable key text (kept key text found)⟩

theorem WellFormed.write_keeps {p : Profile} (writable : p.Writable) :
    Task.Keeps WellFormed (RecordStore.write p.id p.toText) fun _ => True := by
  intro s wellFormed
  unfold Task.Ensures
  cases valid : Record.isValidIdentifier p.id with
  | true =>
    rw [runOn_write_of_valid valid]
    exact ⟨wellFormed.insert writable valid, fun _ _ => trivial⟩
  | false =>
    obtain ⟨fault, refused⟩ := runOn_write_of_invalid (s := s) valid p.toText
    rw [refused]
    exact ⟨wellFormed, fun _ _ => trivial⟩

theorem WellFormed.remove_keeps (id : String) :
    Task.Keeps WellFormed (RecordStore.remove id) fun _ => True := by
  intro s wellFormed
  unfold Task.Ensures
  cases present : s.records.contains id with
  | true =>
    rw [runOn_remove_of_contains present]
    exact ⟨wellFormed.erase id, fun _ _ => trivial⟩
  | false =>
    rw [runOn_remove_of_not_contains present]
    exact ⟨wellFormed, fun _ _ => trivial⟩

end MemoryStore

namespace Profile

open MemoryStore

variable {s : MemoryStore}

private theorem exists_loaded_of_wellFormed (wellFormed : s.WellFormed) {id text : String}
    (found : s.records.get? id = some text) : ∃ p, loaded s id = .ok p := by
  obtain ⟨p, accepted, -⟩ := wellFormed.readable id text found
  exact ⟨{ p with id }, loaded_eq_ok_iff_stores.mpr ⟨text, p, found, accepted, rfl⟩⟩

/-- A listing of a well-formed store reports every record, in the order of the identifiers. -/
theorem list_ensures_of_wellFormed (wellFormed : s.WellFormed) :
    (list : Task MemoryStore (List ProfileSummary)).Ensures s fun answer t =>
      t = s ∧ ∃ summaries, answer = .ok summaries ∧
        summaries.map ProfileSummary.id = s.records.keys := by
  have readable : ∀ id ∈ s.records.keys, (summary? s id).isSome = true := by
    intro id member
    obtain ⟨text, found⟩ := TextMap.exists_of_mem_keys member
    obtain ⟨p, loads⟩ := exists_loaded_of_wellFormed wellFormed found
    rw [summary?, loads]
    rfl
  refine (list_ensures_summaries s).mono ?_
  intro answer t ended
  refine ⟨ended.1, _, ended.2, ?_⟩
  rw [map_id_filterMap_summary?]
  exact List.filter_eq_self.mpr readable

end Profile

end ProfileShell
