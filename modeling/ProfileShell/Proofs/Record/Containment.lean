import ProfileShell.Proofs.FileSystem.Elsewhere
import ProfileShell.Proofs.Record.DirectoryStore

/-!
The files of records lie in their folder.

An identifier is refused before anything is looked up, or it names one file: the store goes by the
path of its folder and one more name, which is no dots and holds no slash, so what it leads to is in
the folder. Different identifiers have different files there, and the name of a file tells its
identifier.
-/

set_option autoImplicit false
set_option relaxedAutoImplicit false

namespace ProfileShell

namespace FileSystem

private theorem exists_parent_of_place?_entry {fs : FileSystem} {p : Path} {name : String}
    {reached : Place}
    (proper : Path.IsEntryName name) (led : fs.place? (p.entry name) = .ok reached) :
    ∃ place, fs.place? p = .ok place ∧ fs.root.HasFolder place ∧ reached = place ++ [name] := by
  obtain ⟨place, arrived, last⟩ := exists_place?_of_entry led
  exact ⟨place, arrived, FileTree.hasFolder_of_follow last,
    FileTree.eq_of_follow_entry proper last⟩

end FileSystem

namespace DirectoryStore

open ProfileShell.Task (Ensures)
open Record (IsExtension checkIdentifier fileName isValidIdentifier stem?)

/-- Every store refuses to look for a record, to read, to write and to remove it, whatever the
system holds, and the system stays as it is. -/
structure Refuses (id : String) (fault : Failure) : Prop where
  holds : ∀ d, (RecordStore.holds id : Task DirectoryStore Bool).runOn d = ⟨.error fault, d, []⟩
  read : ∀ d, (RecordStore.read id : Task DirectoryStore String).runOn d = ⟨.error fault, d, []⟩
  write : ∀ d text,
    (RecordStore.write id text : Task DirectoryStore Unit).runOn d = ⟨.error fault, d, []⟩
  remove : ∀ d, (RecordStore.remove id : Task DirectoryStore Unit).runOn d = ⟨.error fault, d, []⟩

/-- The store knows a record by what one path leads to, and changes nothing else, but for the folder
that it creates before it writes. -/
structure ActsAt (d : DirectoryStore) (id : String) (path : Path) : Prop where
  holds : (RecordStore.holds id : Task DirectoryStore Bool).runOn d =
    ⟨.ok (d.files.isFile path), d, []⟩
  read : (RecordStore.read id : Task DirectoryStore String).runOn d =
    ⟨(d.files.readText path).mapError (recordFault id), d, []⟩
  write : ∀ text, (RecordStore.write id text : Task DirectoryStore Unit).Ensures d fun _ after =>
    ∃ files, after = { d with files } ∧
      FileSystem.SameBut path (d.files.createFolders d.folder).1 files
  remove : (RecordStore.remove id : Task DirectoryStore Unit).Ensures d fun _ after =>
    ∃ files, after = { d with files } ∧ FileSystem.SameBut path d.files files

/-- The record of an identifier has a file of its own directly in the folder of the store. -/
structure Contained (d : DirectoryStore) (id name : String) : Prop where
  path : d.pathOf id = d.folder.join ⟨[name]⟩
  nonempty : name ≠ ""
  noDots : name ≠ "." ∧ name ≠ ".."
  slashless : '/' ∉ name.toList
  nulless : '\x00' ∉ name.toList
  inside : ∀ reached, d.files.place? (d.pathOf id) = .ok reached →
    ∃ place, d.files.place? d.folder = .ok place ∧ d.files.root.HasFolder place ∧
      reached = place ++ [name]
  acts : ActsAt d id (d.pathOf id)
  apart : ∀ other, checkIdentifier other = .ok () → other ≠ id →
    fileName other d.extension ≠ name ∧ d.pathOf other ≠ d.pathOf id

variable {d : DirectoryStore} {id : String}

private theorem refuses_of_checkIdentifier {fault : Failure}
    (refused : checkIdentifier id = .error fault) : Refuses id fault := by
  have invalid : isValidIdentifier id = false := by
    rw [← Bool.not_eq_true]
    intro valid
    rw [Record.checkIdentifier_of_valid valid] at refused
    cases refused
  obtain ⟨own, same⟩ := Record.checkIdentifier_of_invalid invalid
  obtain rfl : Failure.store own = fault := Except.error.inj (same.symm.trans refused)
  exact ⟨fun _ => runOn_holds_of_refused refused, fun _ => runOn_read_of_refused refused,
    fun _ => runOn_write_of_refused refused, fun _ => runOn_remove_of_refused refused⟩

private theorem actsAt_pathOf (valid : isValidIdentifier id = true) (d : DirectoryStore) :
    ActsAt d id (d.pathOf id) where
  holds := runOn_holds valid
  read := by
    rw [runOn_read, Record.checkIdentifier_of_valid valid]
    rfl
  write text := by
    rw [Ensures]
    cases created : d.files.createFolders d.folder with
    | mk made answer =>
      cases answer with
      | error fault =>
        rw [runOn_write_of_uncreated valid created]
        exact ⟨made, rfl, .refl _ made⟩
      | ok _ =>
        cases written : made.writeFile (d.pathOf id) text.toUTF8 with
        | error fault =>
          rw [runOn_write_of_unwritten valid created written]
          exact ⟨made, rfl, .refl _ made⟩
        | ok files =>
          rw [runOn_write_of_ok valid created written]
          exact ⟨files, rfl, FileSystem.sameBut_of_writeFile written⟩
  remove := by
    rw [Ensures]
    cases removed : d.files.removeFile (d.pathOf id) with
    | error fault =>
      rw [runOn_remove_of_error valid removed]
      exact ⟨d.files, rfl, .refl _ d.files⟩
    | ok files =>
      rw [runOn_remove_of_ok valid removed]
      exact ⟨files, rfl, FileSystem.sameBut_of_removeFile removed⟩

private theorem pathOf_ne (legal : IsExtension d.extension) (valid : isValidIdentifier id = true)
    {other : String} (validOther : isValidIdentifier other = true) (different : other ≠ id) :
    d.pathOf other ≠ d.pathOf id := by
  intro same
  rw [pathOf_eq legal valid, pathOf_eq legal validOther] at same
  obtain ⟨stem, entry, -⟩ := d.folder.names_entry (fileName id d.extension)
  obtain ⟨stemOther, entryOther, -⟩ := d.folder.names_entry (fileName other d.extension)
  have ends : stemOther ++ [fileName other d.extension] = stem ++ [fileName id d.extension] := by
    rw [← entry, ← entryOther, same]
  exact different (Record.fileName_injective (List.append_singleton_inj.mp ends).2)

private theorem contained (legal : IsExtension d.extension)
    (accepted : checkIdentifier id = .ok ()) : Contained d id (fileName id d.extension) := by
  have valid := Record.isValidIdentifier_of_checkIdentifier accepted
  obtain ⟨nonempty, noDot, noDots⟩ := Record.fileName_ne_dots valid d.extension
  refine ⟨pathOf_eq legal valid, nonempty, ⟨noDot, noDots⟩,
    Record.slash_not_mem_fileName legal valid, Record.nul_not_mem_fileName legal valid, ?_,
    actsAt_pathOf valid d, ?_⟩
  · intro reached led
    rw [pathOf_eq legal valid] at led
    exact FileSystem.exists_parent_of_place?_entry (isEntryName_fileName valid d.extension) led
  · intro other acceptedOther different
    have validOther := Record.isValidIdentifier_of_checkIdentifier acceptedOther
    exact ⟨fun same => different (Record.fileName_injective same),
      pathOf_ne legal valid validOther different⟩

/-- A refused identifier is refused before anything is looked up. The record of an accepted one is
in a file of its own directly in the folder of the store. What a file is named tells the identifier,
and nothing else has that name. -/
theorem record_files_are_contained :
    (∀ id fault, checkIdentifier id = .error fault → Refuses id fault) ∧
    (∀ files folder extension, IsExtension extension → ∀ id, checkIdentifier id = .ok () →
      let d := create files folder extension
      Contained d id (fileName id d.extension)) ∧
    (∀ id extension, stem? (fileName id extension) extension = some id) ∧
    ∀ name extension id, stem? name extension = some id → name = fileName id extension := by
  refine ⟨?_, ?_, Record.stem?_fileName, ?_⟩
  · intro id fault refused
    exact refuses_of_checkIdentifier refused
  · intro files folder extension legal id accepted d
    exact contained (isExtension_create files folder legal) accepted
  · intro name extension id stem
    exact Record.stem?_eq_some_iff.mp stem

def dottedNames : FileSystem :=
  ⟨.folder [("saves", .folder [("a.", .file "{}".toUTF8), ("a..", .file "[]".toUTF8)])], []⟩

/-- With no more than a dot for an extension, the names are the identifiers with a dot behind. -/
theorem record_files_are_contained_dottedNames :
    let d := create dottedNames (.ofText "saves") "."
    Refuses "../a" (.store (.invalidIdentifier "../a")) ∧
      IsExtension "." ∧ Contained d "a" "a." ∧ Contained d "a." "a.." ∧
      d.files.place? (d.pathOf "a.") = .ok ["saves", "a.."] ∧
      stem? "a.." "" = some "a." ∧ fileName "a." "" = "a.." := by
  intro d
  obtain ⟨refuses, contains, stems, names⟩ := record_files_are_contained
  have legal : IsExtension "." := ⟨by decide +kernel, by decide +kernel⟩
  have dots : fileName "a" d.extension = "a." ∧ fileName "a." d.extension = "a.." := by
    decide +kernel
  have stem : stem? "a.." "" = some "a." := stems "a." ""
  refine ⟨refuses _ _ (by decide +kernel), legal, ?_, ?_, by decide +kernel, stem,
    (names _ _ _ stem).symm⟩
  · rw [← dots.1]
    exact contains dottedNames (.ofText "saves") "." legal "a" (by decide +kernel)
  · rw [← dots.2]
    exact contains dottedNames (.ofText "saves") "." legal "a." (by decide +kernel)

end DirectoryStore

end ProfileShell
