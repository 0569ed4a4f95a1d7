import ProfileShell.Proofs.Launcher.Agreement
import ProfileShell.Proofs.Profile.Loading
import ProfileShell.Proofs.Record.Refinement

/-!
A launcher does the same over a directory store as over a memory store with the same records.

The two stores differ on identifiers that are not valid, which the launcher never asks about. What
the system refuses is seen by running over a watched store, which notes each failure of the system
in the log.
-/

set_option autoImplicit false
set_option relaxedAutoImplicit false

namespace ProfileShell

open Record (isValidIdentifier)

/-- A store whose failures of the system are noted. -/
structure Watched (σ : Type) where
  store : σ

namespace Watched

variable {σ α : Type}

def alarm : LogRecord :=
  ⟨.error, "the system failed"⟩

def onStore (x : Task σ α) : Task (Watched σ) α := do
  match ← Task.attempt (Task.within Watched.store (fun store _ => ⟨store⟩) x) with
  | .ok a => pure a
  | .error (.system fault) =>
    Task.note alarm.level alarm.text
    throw (.system fault)
  | .error e => throw e

instance [RecordStore σ] : RecordStore (Watched σ) where
  identifiers := onStore RecordStore.identifiers
  holds id := onStore (RecordStore.holds id)
  freeIdentifier base := onStore (RecordStore.freeIdentifier base)
  read id := onStore (RecordStore.read id)
  write id text := onStore (RecordStore.write id text)
  remove id := onStore (RecordStore.remove id)

def Follows (w : Watched σ) (s : σ) : Prop :=
  w.store = s

private theorem runOn_onStore (x : Task σ α) (s : σ) :
    ((onStore x).runOn ⟨s⟩).answer = (x.runOn s).answer ∧
      ((onStore x).runOn ⟨s⟩).state = ⟨(x.runOn s).state⟩ ∧
      ∀ fault, (x.runOn s).answer = .error (.system fault) →
        alarm ∈ ((onStore x).runOn ⟨s⟩).log := by
  have attempted : (Task.attempt (Task.within Watched.store
      (fun store (_ : Watched σ) => ⟨store⟩) x)).runOn ⟨s⟩ =
        ⟨.ok (x.runOn s).answer, ⟨(x.runOn s).state⟩, (x.runOn s).log ++ []⟩ := rfl
  unfold onStore
  rw [Task.runOn_bind_of_ok attempted]
  rcases (x.runOn s).answer with e | a
  · cases e with
    | system fault =>
      refine ⟨rfl, rfl, fun _ _ => List.mem_append_right _ ?_⟩
      exact List.mem_append_left _ (List.mem_singleton.mpr rfl)
    | _ => exact ⟨rfl, rfl, fun _ impossible => by cases impossible⟩
  · exact ⟨rfl, rfl, fun _ impossible => by cases impossible⟩

private theorem onStore_agrees (x : Task σ α) : Task.Agrees Follows (onStore x) x := by
  rintro ⟨s⟩ _ rfl
  obtain ⟨same, state, -⟩ := runOn_onStore x s
  exact ⟨same, congrArg Watched.store state⟩

private theorem agree [RecordStore σ] : RecordStore.Agree (Follows (σ := σ)) where
  identifiers := onStore_agrees _
  holds _ := onStore_agrees _
  freeIdentifier _ := onStore_agrees _
  read _ := onStore_agrees _
  write _ _ := onStore_agrees _
  remove _ := onStore_agrees _

end Watched

open DirectoryStore (IsSystemFault Same)

def Watched.Mirrors (w : Watched DirectoryStore) (m : MemoryStore) : Prop :=
  w.store.Mirrors m

namespace Watched

/-- Until the alarm a watched operation on the directory does the same as in memory. -/
private theorem agreesUntilAt {α : Type} {d : DirectoryStore} {m : MemoryStore}
    {x : Task DirectoryStore α} {y : Task MemoryStore α}
    (outcome : IsSystemFault (x.runOn d).answer ∨ Same d m x y) :
    Action.AgreesUntilAt (· = alarm) Watched.Mirrors (onStore x).run y.run ⟨d⟩ m := by
  intro unalarmed
  obtain ⟨answer, state, alarmed⟩ := runOn_onStore x d
  rcases outcome with ⟨fault, failed⟩ | ⟨same, continues⟩
  · exact absurd rfl (unalarmed _ (alarmed fault failed))
  · refine ⟨answer.trans same, ?_⟩
    unfold Watched.Mirrors
    exact (congrArg Watched.store state).symm ▸ continues.mirrors

private theorem mergeSort_eq_of_perm {as bs : List String} (perm : as.Perm bs) :
    (as.mergeSort fun a b => decide (a ≤ b)) = bs.mergeSort fun a b => decide (a ≤ b) := by
  have sorted := Profile.pairwise_le_mergeSort
  have same : (as.mergeSort fun a b => decide (a ≤ b)).Perm
      (bs.mergeSort fun a b => decide (a ≤ b)) :=
    (List.mergeSort_perm as _).trans (perm.trans (List.mergeSort_perm bs _).symm)
  refine same.eq_of_pairwise ?_ (sorted as) (sorted bs)
  intro a b _ _ less more
  exact String.le_antisymm less more

private theorem runOn_ascending {d : DirectoryStore} {m : MemoryStore} (mirrors : d.Mirrors m) :
    (Profile.ascending.runOn (⟨d⟩ : Watched DirectoryStore)).answer =
        .ok (m.records.keys.mergeSort fun a b => decide (a ≤ b)) ∧
      (Profile.ascending.runOn (⟨d⟩ : Watched DirectoryStore)).state = ⟨d⟩ := by
  obtain ⟨ids, listed, perm⟩ := mirrors.identifiers
  obtain ⟨answer, state, -⟩ :=
    runOn_onStore (RecordStore.identifiers : Task DirectoryStore (List String)) d
  rw [listed] at answer state
  have watched : (RecordStore.identifiers : Task (Watched DirectoryStore) (List String)).runOn ⟨d⟩ =
      ⟨.ok ids, ⟨d⟩, ((onStore RecordStore.identifiers).runOn ⟨d⟩).log⟩ :=
    congrArg₂ (fun answer state => Run.mk answer state _) answer state
  unfold Profile.ascending
  rw [Task.runOn_bind_of_ok watched, mergeSort_eq_of_perm perm]
  exact ⟨rfl, rfl⟩

private theorem agreeUntil :
    RecordStore.AgreeUntil (· = alarm) (isValidIdentifier · = true) Watched.Mirrors where
  ascending := by
    rintro ⟨d⟩ m mirrors -
    obtain ⟨answer, state⟩ := runOn_ascending mirrors
    refine ⟨answer, ?_⟩
    change Watched.Mirrors (Profile.ascending.runOn (⟨d⟩ : Watched DirectoryStore)).state m
    rw [state]
    exact mirrors
  holds _ valid := fun ⟨_⟩ _ mirrors => agreesUntilAt (.inr (mirrors.holds valid))
  freeIdentifier base := fun ⟨_⟩ _ mirrors => agreesUntilAt (.inr (mirrors.freeIdentifier base))
  read _ valid := fun ⟨_⟩ _ mirrors => agreesUntilAt ((mirrors.read valid).imp_left And.left)
  write id text := by
    rintro ⟨d⟩ m mirrors
    cases valid : isValidIdentifier id with
    | true => exact agreesUntilAt ((mirrors.write valid text).imp_left And.left)
    | false => exact agreesUntilAt (.inr (mirrors.write_of_invalid valid text))
  remove _ valid := fun ⟨_⟩ _ mirrors => agreesUntilAt ((mirrors.remove valid).imp_left And.left)
  valid _ valid := valid
  listed := by
    rintro ⟨d⟩ m mirrors ids answered id member
    rw [(runOn_ascending mirrors).1] at answered
    cases answered
    obtain ⟨text, held⟩ := TextMap.exists_of_mem_keys (List.mem_mergeSort.mp member)
    exact mirrors.valid id text held

end Watched

namespace Launcher

def watched {σ : Type} (l : Launcher σ) : Launcher (Watched σ) :=
  ⟨⟨⟨l.host.store⟩, l.host.console, l.host.clock⟩, l.settings⟩

/-- A run over a directory answers the same as one over a memory store with the same records, reads
and prints the same and takes the same times, and leaves stores with the same records, unless the
system fails the store. -/
theorem run_same_over_stores (l : Launcher DirectoryStore) (m : Launcher MemoryStore)
    (related : Related DirectoryStore.Mirrors l m)
    (sound : Watched.alarm ∉ (Launcher.run.runOn l.watched).log) :
    (Launcher.run.runOn l).answer = (Launcher.run.runOn m).answer ∧
      Related DirectoryStore.Mirrors (Launcher.run.runOn l).state (Launcher.run.runOn m).state := by
  have asWatched : Action.AgreesAt (Related Watched.Follows) run.run run.run l.watched l :=
    run_agrees Watched.agree _ _ ⟨⟨rfl, rfl, rfl⟩, rfl⟩
  have asInMemory : Action.AgreesAt (Related Watched.Mirrors) run.run run.run l.watched m := by
    refine run_agreesUntil Watched.agreeUntil l.watched m ?_ ?_
    · exact ⟨⟨related.host.store, related.host.console, related.host.clock⟩, related.settings⟩
    · rintro record member rfl
      exact sound member
  obtain ⟨sameAnswer, sameEnd⟩ := asWatched
  obtain ⟨answer, ends⟩ := asInMemory
  refine ⟨sameAnswer.symm.trans answer, ⟨?_, ?_, ?_⟩, ?_⟩
  · exact sameEnd.host.store ▸ ends.host.store
  · exact sameEnd.host.console.symm.trans ends.host.console
  · exact sameEnd.host.clock.symm.trans ends.host.clock
  · exact sameEnd.settings.symm.trans ends.settings

def pathTyped {σ : Type} (store : σ) : Launcher σ :=
  ⟨⟨store, .ofInput [.line "new Ada ada", .line "rm ../x true"],
    .regular 1700000000000 0⟩, .standard⟩

theorem run_same_over_stores_pathTyped :
    Related DirectoryStore.Mirrors (pathTyped DirectoryStore.missingFolder) (pathTyped .empty) ∧
      Watched.alarm ∉ (Launcher.run.runOn (pathTyped DirectoryStore.missingFolder).watched).log ∧
      Related DirectoryStore.Mirrors
        (Launcher.run.runOn (pathTyped DirectoryStore.missingFolder)).state
        (Launcher.run.runOn (pathTyped MemoryStore.empty)).state ∧
      (Launcher.run.runOn (pathTyped MemoryStore.empty)).state.host.store.records.keys =
        ["ada"] := by
  have related : Related DirectoryStore.Mirrors (pathTyped DirectoryStore.missingFolder)
      (pathTyped .empty) := ⟨⟨DirectoryStore.missingFolder_mirrors, rfl, rfl⟩, rfl⟩
  have sound : Watched.alarm ∉
      (Launcher.run.runOn (pathTyped DirectoryStore.missingFolder).watched).log := by
    decide +kernel
  exact ⟨related, sound, (run_same_over_stores _ _ related sound).2, by decide +kernel⟩

end Launcher

end ProfileShell
