import Mathlib.Logic.Function.Basic
import ProfileShell.Proofs.Record.MemoryStore
import ProfileShell.Proofs.TextMap

/-!
Stores that answer the truth.

Any operation may fail, and one that fails changes no record. One that succeeds answers as the
records are, and a write or a removal changes the record under its own identifier alone. The store
in memory is such a store, and so is the one that refuses operations.
-/

set_option autoImplicit false
set_option relaxedAutoImplicit false

namespace ProfileShell

open ProfileShell.Task (Ensures)

namespace RecordStore

/-- A success leaves the new records, and a failure the old ones. -/
def Commits {α : Type} (old new : String → Option String) :
    Except Failure α → (String → Option String) → Prop
  | .ok _, left => left = new
  | .error _, left => left = old

/-- The records of a state, as far as operations of the store that succeed tell and change them. -/
structure Truthful {σ : Type} [RecordStore σ] (view : σ → String → Option String) : Prop where
  holds (s : σ) (id : String) : (holds id : Task σ Bool).Ensures s fun answer t =>
    view t = view s ∧ ∀ known, answer = .ok known → known = (view s id).isSome
  read (s : σ) (id : String) : (read id : Task σ String).Ensures s fun answer t =>
    view t = view s ∧ ∀ text, answer = .ok text → view s id = some text
  write (s : σ) (id text : String) : (write id text : Task σ Unit).Ensures s fun answer t =>
    Commits (view s) (Function.update (view s) id (some text)) answer (view t)
  remove (s : σ) (id : String) : (remove id : Task σ Unit).Ensures s fun answer t =>
    Commits (view s) (Function.update (view s) id none) answer (view t)

end RecordStore

namespace TextMap

variable {α : Type}

private theorem get?_insert_eq_update (m : TextMap α) (key : String) (value : α) :
    (m.insert key value).get? = Function.update m.get? key (some value) := by
  ext other : 1
  rw [get?_insert, Function.update_apply]

private theorem get?_erase_eq_update (m : TextMap α) (key : String) :
    (m.erase key).get? = Function.update m.get? key none := by
  ext other : 1
  rw [get?_erase, Function.update_apply]

theorem contains_keys (m : TextMap α) (key : String) :
    m.keys.contains key = (m.get? key).isSome := by
  rw [Bool.eq_iff_iff, List.contains_iff_mem, Option.isSome_iff_exists]
  constructor
  · exact exists_of_mem_keys
  · rintro ⟨value, found⟩
    exact mem_keys_of_get? found

end TextMap

namespace MemoryStore

private theorem truthful : RecordStore.Truthful fun (s : MemoryStore) => s.records.get? where
  holds s id := by
    refine ⟨rfl, ?_⟩
    rintro known ⟨⟩
    rfl
  read s id := by
    unfold Ensures
    cases found : s.records.get? id with
    | none =>
      rw [runOn_read_of_none found]
      exact ⟨rfl, fun text impossible => by cases impossible⟩
    | some text =>
      rw [runOn_read_of_some found]
      refine ⟨rfl, ?_⟩
      rintro _ ⟨⟩
      rfl
  write s id text := by
    unfold Ensures
    cases valid : Record.isValidIdentifier id with
    | false =>
      obtain ⟨fault, refused⟩ := runOn_write_of_invalid valid text
      rw [refused]
      rfl
    | true =>
      rw [runOn_write_of_valid valid]
      exact s.records.get?_insert_eq_update id text
  remove s id := by
    unfold Ensures
    cases present : s.records.contains id with
    | false =>
      rw [runOn_remove_of_not_contains present]
      rfl
    | true =>
      rw [runOn_remove_of_contains present]
      exact s.records.get?_erase_eq_update id

end MemoryStore

namespace RefusingStore

variable {α : Type}

/-- A guarded task is refused, or it ends as on the inner store. -/
theorem guarded_ensures {operation : StoreOperation} {x : Task MemoryStore α} {s : RefusingStore}
    {Q : Except Failure α → RefusingStore → Prop} (refused : ∀ e, Q (.error e) s)
    (done : x.Ensures s.inner fun answer inner => Q answer { s with inner }) :
    (guarded operation x).Ensures s Q := by
  unfold guarded
  refine Ensures.step (w := []) rfl ?_
  split
  · exact Ensures.throw (refused _)
  · exact Ensures.within done

theorem truthful : RecordStore.Truthful fun (s : RefusingStore) => s.inner.records.get? where
  holds s id := by
    have listed : (RecordStore.identifiers : Task RefusingStore (List String)).Ensures s
        fun answer t => t = s ∧ ∀ ids, answer = .ok ids → ids = s.inner.records.keys := by
      refine guarded_ensures (fun e => ⟨rfl, fun ids impossible => by cases impossible⟩) ?_
      refine ⟨rfl, ?_⟩
      rintro _ ⟨⟩
      rfl
    refine Ensures.bind listed ?_ ?_
    · rintro ids t ⟨rfl, told⟩
      rw [told ids rfl]
      refine ⟨rfl, ?_⟩
      rintro known ⟨⟩
      exact t.inner.records.contains_keys id
    · rintro e t ⟨rfl, -⟩
      exact ⟨rfl, fun known impossible => by cases impossible⟩
  read s id := guarded_ensures (fun e => ⟨rfl, fun text impossible => by cases impossible⟩)
    (MemoryStore.truthful.read s.inner id)
  write s id text := guarded_ensures (fun _ => rfl) (MemoryStore.truthful.write s.inner id text)
  remove s id := guarded_ensures (fun _ => rfl) (MemoryStore.truthful.remove s.inner id)

end RefusingStore

end ProfileShell
