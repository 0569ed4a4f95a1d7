import Mathlib.Data.List.Nodup
import ProfileShell.Proofs.FileSystem.Creation
import ProfileShell.Proofs.FileSystem.Writing
import ProfileShell.Proofs.Record.Allocation
import ProfileShell.Proofs.Record.DirectoryStore
import ProfileShell.Proofs.TextMap

/-!
A directory store that holds the records of a memory store.

The folder of the store has one file for each record, or it is missing and there is no record. Each
operation on a valid identifier then answers as it does in memory and leaves the stores alike,
unless the system refuses it: because a file name or a path is too long, or because the folder
cannot be created.
-/

set_option autoImplicit false
set_option relaxedAutoImplicit false

namespace ProfileShell.DirectoryStore

open Record (IsExtension fileName isValidIdentifier stem?)

def Fits (d : DirectoryStore) (id : String) : Prop :=
  FileSystem.Fits d.folder (fileName id d.extension)

instance (d : DirectoryStore) (id : String) : Decidable (d.Fits id) :=
  inferInstanceAs (Decidable (FileSystem.Fits d.folder (fileName id d.extension)))

def CanCreate (d : DirectoryStore) : Prop :=
  (d.files.createFolders d.folder).2 = .ok ()

structure Awaits (d : DirectoryStore) : Prop where
  misses : d.files.Misses d.folder
  empty : ∀ after, d.files.createFolders d.folder = (after, .ok ()) →
    ∃ place, after.Shows d.folder place []

/-- A missing folder is empty once it is created if its path does not turn back on folders that are
missing too. -/
theorem awaits_of_grounded {d : DirectoryStore} (misses : d.files.Misses d.folder)
    (grounded : d.files.Grounded (d.files.fullNames d.folder)) : Awaits d :=
  ⟨misses, fun _ => misses.createFolders grounded⟩

def Holds (extension : String) (entries : List (String × FileTree)) (records : TextMap String) :
    Prop :=
  ∀ name t, entries.lookup name = some t ↔ ∃ id text, name = fileName id extension ∧
    t = .file text.toUTF8 ∧ records.get? id = some text

/-- The directory store holds the records of the memory store: its folder has their files and
nothing else, or it is missing and there are no records. -/
structure Mirrors (d : DirectoryStore) (m : MemoryStore) : Prop where
  extension : IsExtension d.extension
  valid : ∀ id text, m.records.get? id = some text → isValidIdentifier id = true
  fits : ∀ id text, m.records.get? id = some text → d.Fits id
  files : (∃ place entries, d.files.Shows d.folder place entries ∧
      (entries.map Prod.fst).Nodup ∧ Holds d.extension entries m.records) ∨
    d.Awaits ∧ m.records = .empty

variable {d : DirectoryStore} {m : MemoryStore} {id : String}

namespace Holds

variable {extension : String} {entries : List (String × FileTree)} {records : TextMap String}

private theorem lookup_of_some (holds : Holds extension entries records) {text : String}
    (found : records.get? id = some text) :
    entries.lookup (fileName id extension) = some (.file text.toUTF8) :=
  (holds _ _).mpr ⟨id, text, rfl, rfl, found⟩

private theorem lookup_of_none (holds : Holds extension entries records)
    (missing : records.get? id = none) : entries.lookup (fileName id extension) = none := by
  rw [Option.eq_none_iff_forall_ne_some]
  intro t found
  obtain ⟨other, text, same, -, held⟩ := (holds _ _).mp found
  rw [← Record.fileName_injective same, missing] at held
  cases held

private theorem not_folder (holds : Holds extension entries records) (name : String)
    (others : List (String × FileTree)) : entries.lookup name ≠ some (.folder others) := by
  intro found
  obtain ⟨_, _, -, impossible, -⟩ := (holds _ _).mp found
  cases impossible

private theorem update (holds : Holds extension entries records) (id : String)
    {changed : List (String × FileTree)} {after : TextMap String}
    (lookup : ∀ name, changed.lookup name =
      if name = fileName id extension then
        (after.get? id).map fun text => .file text.toUTF8
      else entries.lookup name)
    (others : ∀ other, other ≠ id → after.get? other = records.get? other) :
    Holds extension changed after := by
  intro name t
  rw [lookup]
  by_cases own : name = fileName id extension
  · subst own
    rw [if_pos rfl, Option.map_eq_some_iff]
    constructor
    · rintro ⟨text, held, rfl⟩
      exact ⟨id, text, rfl, rfl, held⟩
    · rintro ⟨other, text, same, rfl, held⟩
      rw [← Record.fileName_injective same] at held
      exact ⟨text, held, rfl⟩
  · have kept : ∀ other, name = fileName other extension →
        after.get? other = records.get? other := by
      rintro other rfl
      exact others other fun same => own (by rw [same])
    rw [if_neg own, holds]
    constructor
    · rintro ⟨other, text, same, rfl, held⟩
      exact ⟨other, text, same, rfl, (kept other same).trans held⟩
    · rintro ⟨other, text, same, rfl, held⟩
      exact ⟨other, text, same, rfl, (kept other same).symm.trans held⟩

private theorem put (holds : Holds extension entries records) (id text : String) :
    Holds extension (FileTree.putEntry (fileName id extension) (.file text.toUTF8) entries)
      (records.insert id text) := by
  refine holds.update id (fun name => ?_) fun other apart => ?_
  · rw [FileTree.lookup_putEntry, TextMap.get?_insert, if_pos rfl, Option.map_some]
  · rw [TextMap.get?_insert, if_neg apart]

private theorem erase (holds : Holds extension entries records) (id : String) :
    Holds extension (entries.filter fun e => e.1 != fileName id extension) (records.erase id) := by
  refine holds.update id (fun name => ?_) fun other apart => ?_
  · rw [FileTree.lookup_filter, TextMap.get?_erase, if_pos rfl, Option.map_none]
  · rw [TextMap.get?_erase, if_neg apart]

end Holds

def IsSystemFault {α : Type} (answer : Except Failure α) : Prop :=
  ∃ fault, answer = .error (.system fault)

/-- What an operation on a record leaves: the stores still hold the same records, and the folder is
where it was. -/
structure Continues (d after : DirectoryStore) (m : MemoryStore) : Prop where
  folder : after.folder = d.folder
  extension : after.extension = d.extension
  creatable : d.CanCreate → after.CanCreate
  mirrors : Mirrors after m

def Same {α : Type} (d : DirectoryStore) (m : MemoryStore) (x : Task DirectoryStore α)
    (y : Task MemoryStore α) : Prop :=
  (x.runOn d).answer = (y.runOn m).answer ∧ Continues d (x.runOn d).state (y.runOn m).state

/-- The system refuses an operation on a record, because the folder cannot be created or a name is
too long. -/
def Refused {α : Type} (d : DirectoryStore) (id : String) (x : Task DirectoryStore α) : Prop :=
  IsSystemFault (x.runOn d).answer ∧ ¬(d.CanCreate ∧ d.Fits id)

theorem Mirrors.continues (mirrors : Mirrors d m) : Continues d d m :=
  ⟨rfl, rfl, fun creatable => creatable, mirrors⟩

theorem Awaits.mirrors (awaits : d.Awaits) (extension : IsExtension d.extension) :
    Mirrors d .empty where
  extension := extension
  valid id text held := by simp [MemoryStore.empty] at held
  fits id text held := by simp [MemoryStore.empty] at held
  files := Or.inr ⟨awaits, rfl⟩

private theorem Mirrors.fileNames (mirrors : Mirrors d m) :
    ∃ names, fileNames.runOn d = ⟨.ok names, d, []⟩ ∧ names.Nodup ∧
      ∀ name, name ∈ names ↔ ∃ id text, name = fileName id d.extension ∧
        m.records.get? id = some text := by
  rcases mirrors.files with ⟨place, entries, shows, distinct, holds⟩ | ⟨awaits, empty⟩
  · refine ⟨_, runOn_fileNames_of_ok shows.listFiles, FileTree.nodup_fileNames distinct, ?_⟩
    intro name
    rw [FileTree.mem_fileNames_iff distinct]
    constructor
    · rintro ⟨content, found⟩
      obtain ⟨id, text, same, -, held⟩ := (holds _ _).mp found
      exact ⟨id, text, same, held⟩
    · rintro ⟨id, text, rfl, held⟩
      exact ⟨_, holds.lookup_of_some held⟩
  · refine ⟨[], runOn_fileNames_of_missing awaits.misses.listFiles, List.nodup_nil, ?_⟩
    simp [empty]

private theorem stems_perm_keys {names : List String} {records : TextMap String}
    {extension : String} (distinct : names.Nodup)
    (named : ∀ name, name ∈ names ↔ ∃ id text, name = fileName id extension ∧
      records.get? id = some text) :
    (names.filterMap fun name => stem? name extension).Perm records.keys := by
  have once := Record.nodup_stems distinct extension
  refine (List.perm_ext_iff_of_nodup once records.nodup_keys).mpr fun id => ?_
  rw [List.mem_filterMap]
  constructor
  · rintro ⟨name, member, own⟩
    obtain ⟨other, text, same, held⟩ := (named name).mp member
    rw [Record.stem?_eq_some_iff.mp own] at same
    rw [Record.fileName_injective same]
    exact TextMap.mem_keys_of_get? held
  · intro member
    obtain ⟨text, held⟩ := TextMap.exists_of_mem_keys member
    exact ⟨fileName id extension, (named _).mpr ⟨id, text, rfl, held⟩,
      Record.stem?_fileName id extension⟩

theorem Mirrors.identifiers (mirrors : Mirrors d m) :
    ∃ ids, (RecordStore.identifiers : Task DirectoryStore (List String)).runOn d =
      ⟨.ok ids, d, []⟩ ∧ ids.Perm m.records.keys := by
  obtain ⟨names, listed, distinct, named⟩ := mirrors.fileNames
  exact ⟨_, runOn_identifiers listed, stems_perm_keys distinct named⟩

theorem Mirrors.freeIdentifier (mirrors : Mirrors d m) (base : String) :
    Same d m (RecordStore.freeIdentifier base) (RecordStore.freeIdentifier base) := by
  obtain ⟨names, listed, distinct, named⟩ := mirrors.fileNames
  have same : ∀ id, id ∈ names.filterMap (fun name => stem? name d.extension) ↔
      id ∈ m.records.keys := fun _ => (stems_perm_keys distinct named).mem_iff
  unfold Same
  rw [runOn_freeIdentifier listed, Record.allocate_congr same]
  exact ⟨rfl, mirrors.continues⟩

private theorem Mirrors.created (mirrors : Mirrors d m) :
    (∃ made fault, d.files.createFolders d.folder = (made, .error fault)) ∨
      ∃ made place entries, d.files.createFolders d.folder = (made, .ok ()) ∧
        made.Shows d.folder place entries ∧ (entries.map Prod.fst).Nodup ∧
        Holds d.extension entries m.records := by
  rcases mirrors.files with ⟨place, entries, shows, distinct, holds⟩ | ⟨awaits, empty⟩
  · exact Or.inr ⟨d.files, place, entries, shows.createFolders, shows, distinct, holds⟩
  · rcases outcome : d.files.createFolders d.folder with ⟨made, fault | _⟩
    · exact Or.inl ⟨made, fault, rfl⟩
    · obtain ⟨place, shows⟩ := awaits.empty made outcome
      refine Or.inr ⟨made, place, [], rfl, shows, List.nodup_nil, ?_⟩
      intro name t
      simp [empty]

inductive RecordFile (d : DirectoryStore) (m : MemoryStore) (id : String) : Prop
  | held {text : String} {spot : Spot} (record : m.records.get? id = some text)
      (found : d.files.find (d.pathOf id) = .ok spot)
      (file : spot.entry = some (.file text.toUTF8))
  | lacking {spot : Spot} (record : m.records.get? id = none)
      (found : d.files.find (d.pathOf id) = .ok spot) (nothing : spot.entry = none)
  /-- There is no folder. -/
  | missing (record : m.records.get? id = none)
      (fault : d.files.find (d.pathOf id) = .error .noSuchEntry)
  | tooLong (record : m.records.get? id = none) (unfit : ¬d.Fits id)
      (fault : d.files.find (d.pathOf id) = .error .nameTooLong)

section Valid

variable (mirrors : Mirrors d m) (valid : isValidIdentifier id = true)
include mirrors valid

private theorem Mirrors.recordFile : RecordFile d m id := by
  have proper := isEntryName_fileName valid d.extension
  have nulless := Record.nul_not_mem_fileName mirrors.extension valid
  have path := pathOf_eq mirrors.extension valid
  rcases mirrors.files with ⟨place, entries, shows, distinct, holds⟩ | ⟨awaits, empty⟩
  · obtain ⟨found, lost⟩ := shows.find_entry proper nulless
    rw [← path] at found lost
    cases record : m.records.get? id with
    | some text =>
      obtain ⟨spot, at_file, -, there⟩ := found (mirrors.fits id text record)
      exact .held record at_file (there.trans (holds.lookup_of_some record))
    | none =>
      by_cases fits : d.Fits id
      · obtain ⟨spot, at_file, -, there⟩ := found fits
        exact .lacking record at_file (there.trans (holds.lookup_of_none record))
      · exact .tooLong record fits (lost fits)
  · have record : m.records.get? id = none := by simp [empty]
    obtain ⟨fitting, either⟩ := awaits.misses.find_below proper nulless
    rw [← path] at fitting either
    by_cases fits : d.Fits id
    · exact .missing record (fitting fits)
    · rcases either with none | long
      · exact .missing record none
      · exact .tooLong record fits long

theorem Mirrors.holds : Same d m (RecordStore.holds id) (RecordStore.holds id) := by
  have same : d.files.isFile (d.pathOf id) = m.records.contains id := by
    unfold FileSystem.isFile FileSystem.entry? TextMap.contains
    cases mirrors.recordFile valid with
    | held record found file => simp [record, found, file]
    | lacking record found nothing => simp [record, found, nothing]
    | missing record fault => simp [record, fault]
    | tooLong record unfit fault => simp [record, fault]
  unfold Same
  rw [runOn_holds valid, same]
  exact ⟨rfl, mirrors.continues⟩

theorem Mirrors.read :
    Refused d id (RecordStore.read id) ∨ Same d m (RecordStore.read id) (RecordStore.read id) := by
  have missing (record : m.records.get? id = none)
      (nothing : d.files.readText (d.pathOf id) = .error .noSuchEntry) :
      Same d m (RecordStore.read id) (RecordStore.read id) := by
    unfold Same
    rw [runOn_read_of_error valid nothing, MemoryStore.runOn_read_of_none record]
    exact ⟨rfl, mirrors.continues⟩
  cases mirrors.recordFile valid with
  | @held text spot record found file =>
    have content : d.files.readText (d.pathOf id) = .ok text := by
      unfold FileSystem.readText
      rw [found]
      simp only [bind, Except.bind, file, fromUTF8?_toUTF8]
    refine Or.inr ?_
    unfold Same
    rw [runOn_read_of_ok valid content, MemoryStore.runOn_read_of_some record]
    exact ⟨rfl, mirrors.continues⟩
  | lacking record found nothing =>
    refine Or.inr (missing record ?_)
    simp [FileSystem.readText, found, nothing, bind, Except.bind]
  | missing record fault =>
    refine Or.inr (missing record ?_)
    simp [FileSystem.readText, fault, bind, Except.bind]
  | tooLong record unfit fault =>
    have refused : d.files.readText (d.pathOf id) = .error .nameTooLong := by
      simp [FileSystem.readText, fault, bind, Except.bind]
    refine Or.inl ⟨⟨.nameTooLong, ?_⟩, fun possible => unfit possible.2⟩
    rw [runOn_read_of_error valid refused]
    rfl

omit valid in
private theorem Mirrors.continues_of_shows {files : FileSystem} {place : Place}
    {entries : List (String × FileTree)} {records : TextMap String}
    (shows : files.Shows d.folder place entries) (distinct : (entries.map Prod.fst).Nodup)
    (holds : Holds d.extension entries records)
    (proper : ∀ other text, records.get? other = some text →
      isValidIdentifier other = true ∧ d.Fits other) :
    Continues d { d with files } ⟨records⟩ where
  folder := rfl
  extension := rfl
  creatable _ := congrArg Prod.snd shows.createFolders
  mirrors :=
    { extension := mirrors.extension
      valid := fun other text held => (proper other text held).1
      fits := fun other text held => (proper other text held).2
      files := Or.inl ⟨place, entries, shows, distinct, holds⟩ }

theorem Mirrors.remove :
    Refused d id (RecordStore.remove id) ∨
      Same d m (RecordStore.remove id) (RecordStore.remove id) := by
  have missing (record : m.records.get? id = none)
      (nothing : d.files.removeFile (d.pathOf id) = .error .noSuchEntry) :
      Same d m (RecordStore.remove id) (RecordStore.remove id) := by
    have absent : m.records.contains id = false := by simp [TextMap.contains, record]
    unfold Same
    rw [runOn_remove_of_error valid nothing, MemoryStore.runOn_remove_of_not_contains absent]
    exact ⟨rfl, mirrors.continues⟩
  cases mirrors.recordFile valid with
  | @held text spot record found file =>
    rcases mirrors.files with ⟨place, entries, shows, distinct, holds⟩ | ⟨-, empty⟩
    · obtain ⟨after, removed, shown⟩ := shows.removeFile_entry (isEntryName_fileName valid _)
        (Record.nul_not_mem_fileName mirrors.extension valid) (holds.lookup_of_some record)
        (mirrors.fits id text record)
      rw [← pathOf_eq mirrors.extension valid] at removed
      have present : m.records.contains id = true := by simp [TextMap.contains, record]
      refine Or.inr ?_
      unfold Same
      rw [runOn_remove_of_ok valid removed, MemoryStore.runOn_remove_of_contains present]
      refine ⟨rfl, mirrors.continues_of_shows shown (FileTree.nodup_filter distinct _)
        (holds.erase id) ?_⟩
      intro other kept held
      rw [TextMap.get?_erase] at held
      split at held
      · cases held
      · exact ⟨mirrors.valid other kept held, mirrors.fits other kept held⟩
    · simp [empty] at record
  | lacking record found nothing =>
    refine Or.inr (missing record ?_)
    simp [FileSystem.removeFile, found, nothing, bind, Except.bind]
  | missing record fault =>
    refine Or.inr (missing record ?_)
    simp [FileSystem.removeFile, fault, bind, Except.bind]
  | tooLong record unfit fault =>
    have refused : d.files.removeFile (d.pathOf id) = .error .nameTooLong := by
      simp [FileSystem.removeFile, fault, bind, Except.bind]
    refine Or.inl ⟨⟨.nameTooLong, ?_⟩, fun possible => unfit possible.2⟩
    rw [runOn_remove_of_error valid refused]
    rfl

theorem Mirrors.write (text : String) :
    Refused d id (RecordStore.write id text) ∨
      Same d m (RecordStore.write id text) (RecordStore.write id text) := by
  rcases mirrors.created with ⟨made, fault, refused⟩ | ⟨made, place, entries, created, shows,
    distinct, holds⟩
  · refine Or.inl ⟨⟨fault, ?_⟩, ?_⟩
    · rw [runOn_write_of_uncreated valid refused]
    · rintro ⟨possible, -⟩
      rw [CanCreate, refused] at possible
      cases possible
  · obtain ⟨written, unwritten⟩ := shows.writeFile_entry (isEntryName_fileName valid d.extension)
      (Record.nul_not_mem_fileName mirrors.extension valid) (holds.not_folder _) text.toUTF8
    rw [← pathOf_eq mirrors.extension valid] at written unwritten
    by_cases fits : d.Fits id
    · obtain ⟨after, done, shown⟩ := written fits
      refine Or.inr ?_
      unfold Same
      rw [runOn_write_of_ok valid created done, MemoryStore.runOn_write_of_valid valid]
      refine ⟨rfl, mirrors.continues_of_shows shown (FileTree.nodup_putEntry distinct _ _)
        (holds.put id text) ?_⟩
      intro other kept held
      rw [TextMap.get?_insert] at held
      split at held
      · rename_i own
        subst own
        exact ⟨valid, fits⟩
      · exact ⟨mirrors.valid other kept held, mirrors.fits other kept held⟩
    · refine Or.inl ⟨⟨.nameTooLong, ?_⟩, fun possible => fits possible.2⟩
      rw [runOn_write_of_unwritten valid created (unwritten fits)]

end Valid

theorem Mirrors.write_of_invalid (mirrors : Mirrors d m) (invalid : isValidIdentifier id = false)
    (text : String) : Same d m (RecordStore.write id text) (RecordStore.write id text) := by
  obtain ⟨fault, refused⟩ := Record.checkIdentifier_of_invalid invalid
  have inMemory : (RecordStore.write id text : Task MemoryStore Unit).runOn m =
      ⟨.error (.store fault), m, []⟩ := by
    change (MemoryStore.write id text).runOn m = _
    unfold MemoryStore.write
    rw [refused]
    rfl
  unfold Same
  rw [runOn_write_of_refused refused, inMemory]
  exact ⟨rfl, mirrors.continues⟩

end ProfileShell.DirectoryStore
