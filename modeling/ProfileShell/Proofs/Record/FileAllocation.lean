import Mathlib.Tactic.Tauto
import ProfileShell.Proofs.Record.Allocation
import ProfileShell.Proofs.Record.DirectoryStore

/-!
A free identifier is found by way of file names.

The name that is allocated beside some files is that of the identifier that their stems leave free,
so it is the name of none of them, and its stem is this identifier. A directory store allocates so,
which comes to the same as to allocate by its list of identifiers.
-/

set_option autoImplicit false
set_option relaxedAutoImplicit false

namespace ProfileShell

/-- A free identifier, told from the list of identifiers. -/
def RecordStore.freeByList {σ : Type} [RecordStore σ] (base : String) : Task σ String := do
  let ids ← identifiers
  pure (Record.allocate base ids)

-- The store in memory knows no way of its own.
example (base : String) :
    (RecordStore.freeIdentifier base : Task MemoryStore String) = RecordStore.freeByList base := rfl

namespace Record

variable {base extension : String} {files ids : List String}

/-- The identifiers are the stems of the files with the extension, in any order and number. -/
def AreStems (ids files : List String) (extension : String) : Prop :=
  ∀ id, id ∈ ids ↔ ∃ name ∈ files, stem? name extension = some id

private theorem allocateFileName_eq (stems : AreStems ids files extension) (base : String) :
    allocateFileName base files extension = fileName (allocate base ids) extension := by
  have same : ∀ id, id ∈ files.filterMap (fun name => stem? name extension) ↔ id ∈ ids := by
    intro id
    rw [List.mem_filterMap, stems id]
  rw [allocateFileName, allocate_congr same]

private theorem stem?_allocateFileName (stems : AreStems ids files extension) (base : String) :
    stem? (allocateFileName base files extension) extension = some (allocate base ids) := by
  rw [allocateFileName_eq stems]
  exact stem?_fileName (allocate base ids) extension

private theorem allocateFileName_not_mem (stems : AreStems ids files extension) (base : String) :
    allocateFileName base files extension ∉ files := by
  intro member
  have taken : allocate base ids ∈ ids :=
    (stems _).mpr ⟨_, member, stem?_allocateFileName stems base⟩
  exact allocate_not_mem base ids taken

end Record

namespace DirectoryStore

open Record (AreStems allocate allocateFileName fileName stem?)

private theorem freeIdentifier_eq_freeByList (base : String) :
    (RecordStore.freeIdentifier base : Task DirectoryStore String) =
      RecordStore.freeByList base := by
  change DirectoryStore.freeIdentifier base = DirectoryStore.identifiers >>= fun ids =>
    pure (allocate base ids)
  simp only [DirectoryStore.freeIdentifier, DirectoryStore.identifiers, bind_assoc, pure_bind,
    allocateFileName, Record.stem?_fileName, Option.getD_some]

private theorem runOn_freeByList {d after : DirectoryStore} {ids : List String}
    {log : List LogRecord}
    (listed : (RecordStore.identifiers : Task DirectoryStore (List String)).runOn d =
      ⟨.ok ids, after, log⟩) (base : String) :
    (RecordStore.freeByList base : Task DirectoryStore String).runOn d =
      ⟨.ok (allocate base ids), after, log⟩ := by
  rw [RecordStore.freeByList, Task.runOn_bind_of_ok listed]
  exact congrArg (Run.mk _ _) (List.append_nil log)

/-- The file name that is allocated beside some files is that of the identifier that their stems
leave free. It is the name of none of the files, and its stem is the identifier. A directory store
therefore allocates as by its list of identifiers, whatever its folder holds and also where it
cannot be listed, and never allocates a listed identifier. -/
theorem file_allocation_agrees (base : String) :
    (∀ files ids extension, AreStems ids files extension →
        allocateFileName base files extension = fileName (allocate base ids) extension ∧
          allocateFileName base files extension ∉ files ∧
          stem? (allocateFileName base files extension) extension = some (allocate base ids)) ∧
      (RecordStore.freeIdentifier base : Task DirectoryStore String) =
        RecordStore.freeByList base ∧
      ∀ (d after : DirectoryStore) ids log,
        (RecordStore.identifiers : Task DirectoryStore (List String)).runOn d =
          ⟨.ok ids, after, log⟩ →
        allocate base ids ∉ ids ∧ ∀ others, (∀ id, id ∈ others ↔ id ∈ ids) →
          (RecordStore.freeIdentifier base : Task DirectoryStore String).runOn d =
            ⟨.ok (allocate base others), after, log⟩ := by
  refine ⟨?_, freeIdentifier_eq_freeByList base, ?_⟩
  · intro files ids extension stems
    exact ⟨Record.allocateFileName_eq stems base, Record.allocateFileName_not_mem stems base,
      Record.stem?_allocateFileName stems base⟩
  · intro d after ids log listed
    refine ⟨Record.allocate_not_mem base ids, ?_⟩
    intro others same
    rw [freeIdentifier_eq_freeByList, runOn_freeByList listed, Record.allocate_congr same]

/-- Files of another extension, without one and listed twice, and a base that ends like the files.
-/
theorem file_allocation_agrees_dottedBase :
    let files := ["a.json.json", "a.json_1.json", "a.json_2.txt", "a.json_2", "a.json.json"]
    let saves : DirectoryStore := ⟨⟨.folder [("saves", .folder [("a.json", .empty),
      ("b.json", .file "x".toUTF8)])], []⟩, .ofText "saves", "json"⟩
    AreStems ["a.json_1", "a.json"] files "json" ∧
      allocateFileName "a.json" files "json" ∉ files ∧
      stem? (allocateFileName "a.json" files "json") "json" = some "a.json_2" ∧
      ((RecordStore.freeIdentifier "b" : Task DirectoryStore String).runOn saves).answer =
        .ok "b_1" := by
  intro files saves
  have stems : AreStems ["a.json_1", "a.json"] files "json" := by
    have all : files.filterMap (fun name => stem? name "json") =
        ["a.json", "a.json_1", "a.json"] := by decide +kernel
    intro id
    rw [← List.mem_filterMap, all]
    simp only [List.mem_cons, List.not_mem_nil, or_false]
    tauto
  have listed : (RecordStore.identifiers : Task DirectoryStore (List String)).runOn saves =
      ⟨.ok ["b"], saves, []⟩ := by
    have names : saves.files.listFiles saves.folder = .ok ["b.json"] := by decide +kernel
    rw [runOn_identifiers (runOn_fileNames_of_ok names)]
    have stem : ["b.json"].filterMap (fun name => stem? name saves.extension) = ["b"] := by
      decide +kernel
    rw [stem]
  obtain ⟨named, -, -⟩ := file_allocation_agrees "a.json"
  obtain ⟨-, -, free⟩ := file_allocation_agrees "b"
  have allocated : allocate "a.json" ["a.json_1", "a.json"] = "a.json_2" := by decide +kernel
  have numbered : allocate "b" ["b"] = "b_1" := by decide +kernel
  refine ⟨stems, (named _ _ _ stems).2.1, ?_, ?_⟩
  · rw [(named _ _ _ stems).2.2, allocated]
  · rw [(free _ _ _ _ listed).2 ["b"] fun _ => Iff.rfl, numbered]

end DirectoryStore

end ProfileShell
