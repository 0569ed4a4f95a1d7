import Mathlib.Data.Finset.Dedup
import Mathlib.Data.Finset.Empty
import ProfileShell.Proofs.Record.Mirroring

/-!
Any sequence of store operations does the same on a directory store and on a memory store that hold
the same records, as long as the system does not fail. It never fails if the folder can be created
and no name is too long.
-/

set_option autoImplicit false
set_option relaxedAutoImplicit false

namespace ProfileShell

open Record (isValidIdentifier)

inductive StoreCall
  | identifiers
  | holds (id : String)
  | freeIdentifier (base : String)
  | read (id : String)
  | write (id text : String)
  | remove (id : String)

/-- What an operation answers; identifiers come in no particular order. -/
inductive StoreReply
  | identifiers (ids : Finset String)
  | held (present : Bool)
  | text (text : String)
  | done
  deriving DecidableEq

namespace StoreCall

def identifier? : StoreCall → Option String
  | .identifiers | .freeIdentifier _ => none
  | .holds id | .read id | .write id _ | .remove id => some id

variable {σ : Type}

section Perform

variable [RecordStore σ]

def perform : StoreCall → Task σ StoreReply
  | .identifiers => (fun ids => .identifiers ids.toFinset) <$> RecordStore.identifiers
  | .holds id => .held <$> RecordStore.holds id
  | .freeIdentifier base => .text <$> RecordStore.freeIdentifier base
  | .read id => .text <$> RecordStore.read id
  | .write id text => (fun _ => .done) <$> RecordStore.write id text
  | .remove id => (fun _ => .done) <$> RecordStore.remove id

def performAll : List StoreCall → Action σ (List (Except Failure StoreReply))
  | [] => pure []
  | call :: rest => do
    let answer ← call.perform.run
    return answer :: (← performAll rest)

private theorem run_performAll_cons (call : StoreCall) (rest : List StoreCall) (s : σ) :
    ((performAll (call :: rest)).run s).answer = (call.perform.runOn s).answer ::
      ((performAll rest).run (call.perform.runOn s).state).answer ∧
      ((performAll (call :: rest)).run s).state =
        ((performAll rest).run (call.perform.runOn s).state).state :=
  ⟨rfl, rfl⟩

end Perform

end StoreCall

namespace DirectoryStore

variable {d : DirectoryStore} {m : MemoryStore}

private theorem Same.map {α β : Type} {x : Task DirectoryStore α} {y : Task MemoryStore α}
    (same : Same d m x y) (f : α → β) : Same d m (f <$> x) (f <$> y) := by
  unfold Same at same ⊢
  rw [Task.runOn_map, Task.runOn_map]
  exact ⟨congrArg (Except.map f) same.1, same.2⟩

private theorem Refused.map {α β : Type} {x : Task DirectoryStore α} {id : String}
    (refused : Refused d id x) (f : α → β) : Refused d id (f <$> x) := by
  obtain ⟨⟨fault, answer⟩, unable⟩ := refused
  refine ⟨⟨fault, ?_⟩, unable⟩
  rw [Task.runOn_map]
  simp only [answer, Except.map]

private theorem not_isSystemFault_inMemory (call : StoreCall) (m : MemoryStore) :
    ¬IsSystemFault (call.perform.runOn m).answer := by
  rintro ⟨fault, failed⟩
  cases call with
  | identifiers => cases failed
  | holds id => cases failed
  | freeIdentifier base => cases failed
  | read id =>
    rw [StoreCall.perform, Task.runOn_map] at failed
    cases record : m.records.get? id with
    | some text => rw [MemoryStore.runOn_read_of_some record] at failed; cases failed
    | none => rw [MemoryStore.runOn_read_of_none record] at failed; cases failed
  | write id text =>
    rw [StoreCall.perform, Task.runOn_map] at failed
    cases valid : isValidIdentifier id with
    | true => rw [MemoryStore.runOn_write_of_valid valid] at failed; cases failed
    | false =>
      obtain ⟨reason, refused⟩ := MemoryStore.runOn_write_of_invalid (s := m) valid text
      rw [refused] at failed
      cases failed
  | remove id =>
    rw [StoreCall.perform, Task.runOn_map] at failed
    cases record : m.records.contains id with
    | true => rw [MemoryStore.runOn_remove_of_contains record] at failed; cases failed
    | false => rw [MemoryStore.runOn_remove_of_not_contains record] at failed; cases failed

private theorem Mirrors.perform (mirrors : Mirrors d m) {call : StoreCall}
    (valid : ∀ id ∈ call.identifier?, isValidIdentifier id = true) :
    (∃ id ∈ call.identifier?, Refused d id call.perform) ∨
      Same d m call.perform call.perform := by
  have either {α : Type} {x : Task DirectoryStore α} {y : Task MemoryStore α} {id : String}
      (known : id ∈ call.identifier?) (outcome : Refused d id x ∨ Same d m x y)
      (f : α → StoreReply) :
      (∃ id ∈ call.identifier?, Refused d id (f <$> x)) ∨ Same d m (f <$> x) (f <$> y) :=
    outcome.imp (fun refused => ⟨id, known, refused.map f⟩) fun same => same.map f
  cases call with
  | identifiers =>
    obtain ⟨ids, listed, perm⟩ := mirrors.identifiers
    refine Or.inr ?_
    unfold Same StoreCall.perform
    rw [Task.runOn_map, Task.runOn_map, listed, MemoryStore.runOn_identifiers]
    refine ⟨?_, mirrors.continues⟩
    simp only [Except.map, List.toFinset_eq_of_perm _ _ perm]
  | holds id => exact Or.inr ((mirrors.holds (valid id rfl)).map _)
  | freeIdentifier base => exact Or.inr ((mirrors.freeIdentifier base).map _)
  | read id => exact either rfl (mirrors.read (valid id rfl)) _
  | write id text => exact either rfl (mirrors.write (valid id rfl) text) _
  | remove id => exact either rfl (mirrors.remove (valid id rfl)) _

/-- Operations on valid identifiers answer the same on both stores, error texts included, and leave
stores that hold the same records, if no answer on the directory is a failure of the system. There
is no such answer if the folder can be created and the names of the records' files are not too long.
-/
theorem performAll_refines (mirrors : Mirrors d m) (calls : List StoreCall)
    (valid : ∀ call ∈ calls, ∀ id ∈ call.identifier?, isValidIdentifier id = true) :
    ((∀ answer ∈ ((StoreCall.performAll calls).run d).answer, ¬IsSystemFault answer) →
      ((StoreCall.performAll calls).run d).answer = ((StoreCall.performAll calls).run m).answer ∧
        Mirrors ((StoreCall.performAll calls).run d).state
          ((StoreCall.performAll calls).run m).state) ∧
      (d.CanCreate → (∀ call ∈ calls, ∀ id ∈ call.identifier?, d.Fits id) →
        ∀ answer ∈ ((StoreCall.performAll calls).run d).answer, ¬IsSystemFault answer) := by
  induction calls generalizing d m with
  | nil => exact ⟨fun _ => ⟨rfl, mirrors⟩, fun _ _ _ none => absurd none List.not_mem_nil⟩
  | cons call rest ih =>
    have later : ∀ other ∈ rest, ∀ id ∈ other.identifier?, isValidIdentifier id = true :=
      fun other member => valid other (List.mem_cons_of_mem _ member)
    obtain ⟨answers, state⟩ := StoreCall.run_performAll_cons call rest d
    obtain ⟨inMemory, stateInMemory⟩ := StoreCall.run_performAll_cons call rest m
    rw [answers, state, inMemory, stateInMemory]
    rcases mirrors.perform (valid call List.mem_cons_self) with ⟨id, about, refused⟩ | ⟨same, next⟩
    · refine ⟨fun unfailing => absurd refused.1 (unfailing _ List.mem_cons_self), ?_⟩
      intro creatable fitting
      exact absurd ⟨creatable, fitting call List.mem_cons_self id about⟩ refused.2
    · obtain ⟨alike, unfailing⟩ := ih next.mirrors later
      constructor
      · intro sound
        obtain ⟨sameRest, mirrored⟩ :=
          alike fun answer member => sound answer (List.mem_cons_of_mem _ member)
        exact ⟨by rw [same, sameRest], mirrored⟩
      · intro creatable fitting answer member
        rcases List.mem_cons.mp member with rfl | member
        · rw [same]
          exact not_isSystemFault_inMemory call m
        · refine unfailing (next.creatable creatable) ?_ answer member
          intro other among id about
          have fits := fitting other (List.mem_cons_of_mem _ among) id about
          unfold Fits at fits ⊢
          rwa [next.folder, next.extension]

def missingFolder : DirectoryStore :=
  .create .empty ⟨["saves"]⟩ ".toml"

theorem missingFolder_mirrors : missingFolder.Mirrors .empty := by
  refine (awaits_of_grounded ⟨by rfl, Or.inr ⟨["saves"], by rfl, by rfl⟩⟩ ?_).mirrors
    ⟨by decide, by decide⟩
  intro before later turned
  have member : ".." ∈ missingFolder.files.fullNames missingFolder.folder := by simp [turned]
  exact absurd member (by decide)

/-- The first write creates the folder; an identifier may end like the files do. -/
theorem performAll_refines_missingFolder :
    let calls : List StoreCall := [.identifiers, .write "a.toml" "x", .holds "a.toml",
      .freeIdentifier "a.toml", .read "a", .remove "a.toml", .remove "a.toml"]
    (∀ call ∈ calls, ∀ id ∈ call.identifier?, isValidIdentifier id = true) ∧
      ((StoreCall.performAll calls).run missingFolder).answer =
        [.ok (.identifiers ∅), .ok .done, .ok (.held true), .ok (.text "a.toml_1"),
          .error (.store (.noSuchRecord "a")), .ok .done,
          .error (.store (.noSuchRecord "a.toml"))] ∧
      Mirrors ((StoreCall.performAll calls).run missingFolder).state
        ((StoreCall.performAll calls).run MemoryStore.empty).state := by
  intro calls
  have valid : ∀ call ∈ calls, ∀ id ∈ call.identifier?, isValidIdentifier id = true := by decide
  have fitting : ∀ call ∈ calls, ∀ id ∈ call.identifier?, missingFolder.Fits id := by decide
  obtain ⟨alike, unfailing⟩ := performAll_refines missingFolder_mirrors calls valid
  obtain ⟨same, after⟩ := alike (unfailing rfl fitting)
  refine ⟨valid, same.trans ?_, after⟩
  decide +kernel

end DirectoryStore

end ProfileShell
