import ProfileShell.Proofs.Record.DirectoryStore
import ProfileShell.Proofs.Record.Truthful

/-!
Stores that stay as they are when they are looked at.

To read a record and to list the identifiers changes none of the stores, whether or not it succeeds.
A store lists no identifier twice, since the keys of a map differ and so do the names in a folder.
-/

set_option autoImplicit false
set_option relaxedAutoImplicit false

namespace ProfileShell

open ProfileShell.Task (Ensures)

namespace RecordStore

variable {σ : Type} [RecordStore σ]

def recordAt (s : σ) (id : String) : Except Failure String :=
  ((read id : Task σ String).runOn s).answer

/-- The store stays as it is when it is looked at, and lists no identifier twice. -/
structure Browsable (s : σ) : Prop where
  reading : ∀ id, ((read id : Task σ String).runOn s).state = s
  listing : ((identifiers : Task σ (List String)).runOn s).state = s
  distinct : ∀ ids, ((identifiers : Task σ (List String)).runOn s).answer = .ok ids → ids.Nodup

end RecordStore

open RecordStore (Browsable recordAt)

namespace MemoryStore

theorem recordAt_eq_ok_iff {s : MemoryStore} {id text : String} :
    recordAt s id = .ok text ↔ s.records.get? id = some text := by
  rw [recordAt]
  cases found : s.records.get? id with
  | none => simp [runOn_read_of_none found]
  | some other => simp [runOn_read_of_some found]

theorem browsable (s : MemoryStore) : Browsable s where
  reading id := by
    cases found : s.records.get? id with
    | none => rw [runOn_read_of_none found]
    | some text => rw [runOn_read_of_some found]
  listing := rfl
  distinct ids listed := by
    have keys : ids = s.records.keys := (Except.ok.inj listed).symm
    rw [keys]
    exact s.records.nodup_keys

end MemoryStore

namespace RefusingStore

theorem browsable (s : RefusingStore) : Browsable s := by
  have listed : (RecordStore.identifiers : Task RefusingStore (List String)).Ensures s
      fun answer t => t = s ∧ ∀ ids, answer = .ok ids → ids.Nodup := by
    refine guarded_ensures (fun e => ⟨rfl, fun ids impossible => by cases impossible⟩) ?_
    exact ⟨rfl, s.inner.browsable.distinct⟩
  refine ⟨?_, listed.1, listed.2⟩
  intro id
  have read : (RecordStore.read id : Task RefusingStore String).Ensures s fun _ t => t = s := by
    refine guarded_ensures (fun _ => rfl) ?_
    have kept := s.inner.browsable.reading id
    exact congrArg (fun inner => RefusingStore.mk inner s.refused) kept
  exact read

end RefusingStore

namespace DirectoryStore

variable {d after : DirectoryStore} {id text : String}

theorem recordAt_eq_ok_iff : recordAt d id = .ok text ↔
    Record.isValidIdentifier id = true ∧ d.files.readText (d.pathOf id) = .ok text := by
  rw [recordAt, runOn_read]
  cases valid : Record.isValidIdentifier id with
  | false =>
    obtain ⟨fault, refused⟩ := Record.checkIdentifier_of_invalid valid
    simp [refused, Except.bind]
  | true =>
    rw [Record.checkIdentifier_of_valid valid]
    cases d.files.readText (d.pathOf id) <;> simp [Except.bind, Except.mapError]

theorem recordAt_congr (same : Record.isValidIdentifier id = true →
    after.files.readText (after.pathOf id) = d.files.readText (d.pathOf id)) :
    recordAt after id = recordAt d id := by
  rw [recordAt, recordAt, runOn_read, runOn_read]
  cases valid : Record.isValidIdentifier id with
  | false =>
    obtain ⟨fault, refused⟩ := Record.checkIdentifier_of_invalid valid
    rw [refused]
    rfl
  | true => rw [same valid]

theorem browsable (distinct : ∀ names, d.files.listFiles d.folder = .ok names → names.Nodup) :
    Browsable d := by
  have listed : fileNames.Ensures d fun answer t =>
      t = d ∧ ∀ names, answer = .ok names → names.Nodup := by
    rw [fileNames]
    apply Ensures.bind (Ensures.get (Q := fun answer t => answer = .ok d ∧ t = d) ⟨rfl, rfl⟩)
    · intro e t reached
      obtain ⟨same, rfl⟩ := reached
      cases same
      split
      · rename_i names found
        refine Ensures.pure ⟨rfl, ?_⟩
        intro others same
        cases same
        exact distinct names found
      · refine Ensures.pure ⟨rfl, ?_⟩
        intro names same
        cases same
        exact List.nodup_nil
      · exact Ensures.throw ⟨rfl, fun names impossible => by cases impossible⟩
    · intro e t impossible
      cases impossible.1
  have identified : (RecordStore.identifiers : Task DirectoryStore (List String)).Ensures d
      fun answer t => t = d ∧ ∀ ids, answer = .ok ids → ids.Nodup := by
    change DirectoryStore.identifiers.Ensures d _
    rw [DirectoryStore.identifiers]
    refine Ensures.bind listed ?_ ?_
    · intro names t reached
      obtain ⟨rfl, once⟩ := reached
      refine ⟨rfl, ?_⟩
      intro ids same
      cases same
      exact Record.nodup_stems (once names rfl) t.extension
    · intro e t reached
      exact ⟨reached.1, fun ids impossible => by cases impossible⟩
  refine ⟨?_, identified.1, identified.2⟩
  intro id
  rw [runOn_read]

end DirectoryStore

end ProfileShell
