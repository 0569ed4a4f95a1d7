import ProfileShell.Proofs.Action.Ensures
import ProfileShell.Proofs.FileSystem
import ProfileShell.Proofs.Record.FileName
import ProfileShell.Proofs.Record.MemoryStore
import ProfileShell.Record.DirectoryStore

/-!
What each operation of the directory store answers and leaves, by what the system answers.
-/

set_option autoImplicit false
set_option relaxedAutoImplicit false

namespace ProfileShell

namespace DirectoryStore

open Record (IsExtension fileName isValidIdentifier)

variable {d : DirectoryStore} {id : String}

theorem toList_extension_create (files : FileSystem) (folder : Path) (extension : String) :
    (create files folder extension).extension.toList =
      extension.toList.dropWhile (· == '.') :=
  String.toList_ofList

theorem isExtension_create (files : FileSystem) (folder : Path) {extension : String}
    (legal : IsExtension extension) :
    IsExtension (create files folder extension).extension := by
  have kept : extension.toList.dropWhile (· == '.') ⊆ extension.toList :=
    (List.dropWhile_suffix _).subset
  constructor
  · rw [toList_extension_create]
    exact fun member => legal.slashless (kept member)
  · rw [toList_extension_create]
    exact fun member => legal.nulless (kept member)

theorem pathOf_eq (legal : IsExtension d.extension) (valid : isValidIdentifier id = true) :
    d.pathOf id = d.folder.entry (fileName id d.extension) := by
  rw [pathOf, Path.ofText_of_slashless (Record.slash_not_mem_fileName legal valid)]
  rfl

theorem isEntryName_fileName (valid : isValidIdentifier id = true) (extension : String) :
    Path.IsEntryName (fileName id extension) := by
  obtain ⟨nonempty, dot, dots⟩ := Record.fileName_ne_dots valid extension
  exact ⟨by simp [Path.staysPut, nonempty, dot], dots⟩

theorem runOn_fileNames_of_ok {names : List String}
    (listed : d.files.listFiles d.folder = .ok names) :
    fileNames.runOn d = ⟨.ok names, d, []⟩ := by
  unfold fileNames
  rw [Task.runOn_get_bind]
  simp only [listed]
  rfl

theorem runOn_fileNames_of_missing (missing : d.files.listFiles d.folder = .error .noSuchEntry) :
    fileNames.runOn d = ⟨.ok [], d, []⟩ := by
  unfold fileNames
  rw [Task.runOn_get_bind]
  simp only [missing]
  rfl

theorem runOn_identifiers {names : List String}
    (listed : fileNames.runOn d = ⟨.ok names, d, []⟩) :
    (RecordStore.identifiers : Task DirectoryStore (List String)).runOn d =
      ⟨.ok (names.filterMap fun name => Record.stem? name d.extension), d, []⟩ := by
  change DirectoryStore.identifiers.runOn d = _
  unfold DirectoryStore.identifiers
  rw [Task.runOn_bind_of_ok listed]
  rfl

theorem runOn_freeIdentifier {names : List String}
    (listed : fileNames.runOn d = ⟨.ok names, d, []⟩) (base : String) :
    (RecordStore.freeIdentifier base : Task DirectoryStore String).runOn d =
      ⟨.ok (Record.allocate base (names.filterMap fun name => Record.stem? name d.extension)),
        d, []⟩ := by
  change (DirectoryStore.freeIdentifier base).runOn d = _
  unfold DirectoryStore.freeIdentifier
  rw [Task.runOn_bind_of_ok listed, Task.runOn_get_bind]
  simp only [Record.allocateFileName, Record.stem?_fileName, Option.getD_some]
  rfl

theorem runOn_read (d : DirectoryStore) (id : String) :
    (RecordStore.read id : Task DirectoryStore String).runOn d =
      ⟨(Record.checkIdentifier id).bind fun _ =>
        (d.files.readText (d.pathOf id)).mapError (recordFault id), d, []⟩ := by
  change (DirectoryStore.read id).runOn d = _
  rw [DirectoryStore.read]
  cases Record.checkIdentifier id with
  | error e => rfl
  | ok _ =>
    rw [Task.runOn_ofExcept_bind, Task.runOn_get_bind]
    cases d.files.readText (d.pathOf id) <;> rfl

section Valid

variable (valid : isValidIdentifier id = true)
include valid

theorem runOn_holds :
    (RecordStore.holds id : Task DirectoryStore Bool).runOn d =
      ⟨.ok (d.files.isFile (d.pathOf id)), d, []⟩ := by
  change (DirectoryStore.holds id).runOn d = _
  unfold DirectoryStore.holds
  rw [Record.checkIdentifier_of_valid valid]
  rfl

theorem runOn_read_of_ok {text : String} (content : d.files.readText (d.pathOf id) = .ok text) :
    (RecordStore.read id : Task DirectoryStore String).runOn d = ⟨.ok text, d, []⟩ := by
  rw [runOn_read, Record.checkIdentifier_of_valid valid, content]
  rfl

theorem runOn_read_of_error {fault : SystemFault}
    (refused : d.files.readText (d.pathOf id) = .error fault) :
    (RecordStore.read id : Task DirectoryStore String).runOn d =
      ⟨.error (recordFault id fault), d, []⟩ := by
  rw [runOn_read, Record.checkIdentifier_of_valid valid, refused]
  rfl

private theorem runOn_remove :
    (RecordStore.remove id : Task DirectoryStore Unit).runOn d =
      match d.files.removeFile (d.pathOf id) with
      | .error fault => ⟨.error (recordFault id fault), d, []⟩
      | .ok files =>
        ⟨.ok (), { d with files }, [⟨.debug, "removed record " ++ (d.pathOf id).text⟩]⟩ := by
  change (DirectoryStore.remove id).runOn d = _
  unfold DirectoryStore.remove
  rw [Record.checkIdentifier_of_valid valid, Task.runOn_ofExcept_bind, Task.runOn_get_bind]
  cases d.files.removeFile (d.pathOf id) <;> rfl

theorem runOn_remove_of_ok {after : FileSystem}
    (removed : d.files.removeFile (d.pathOf id) = .ok after) :
    (RecordStore.remove id : Task DirectoryStore Unit).runOn d =
      ⟨.ok (), { d with files := after }, [⟨.debug, "removed record " ++ (d.pathOf id).text⟩]⟩ := by
  rw [runOn_remove valid, removed]

theorem runOn_remove_of_error {fault : SystemFault}
    (refused : d.files.removeFile (d.pathOf id) = .error fault) :
    (RecordStore.remove id : Task DirectoryStore Unit).runOn d =
      ⟨.error (recordFault id fault), d, []⟩ := by
  rw [runOn_remove valid, refused]

/-- What is written is the file of the identifier, once the folder is there. What was made of the
folder stays where the writing fails. -/
private theorem runOn_write (text : String) :
    (RecordStore.write id text : Task DirectoryStore Unit).runOn d =
      match d.files.createFolders d.folder with
      | (files, .error fault) => ⟨.error (.system fault), { d with files }, []⟩
      | (files, .ok ()) =>
        match files.writeFile (d.pathOf id) text.toUTF8 with
        | .error fault => ⟨.error (.system fault), { d with files }, []⟩
        | .ok files =>
          ⟨.ok (), { d with files }, [⟨.debug, "wrote record " ++ (d.pathOf id).text⟩]⟩ := by
  change (DirectoryStore.write id text).runOn d = _
  unfold DirectoryStore.write
  rw [Record.checkIdentifier_of_valid valid, Task.runOn_ofExcept_bind, Task.runOn_get_bind]
  rcases d.files.createFolders d.folder with ⟨made, fault | _⟩
  · rfl
  · simp only
    rw [Task.runOn_set_bind]
    cases made.writeFile (d.pathOf id) text.toUTF8 <;> rfl

theorem runOn_write_of_ok {made after : FileSystem} {text : String}
    (created : d.files.createFolders d.folder = (made, .ok ()))
    (written : made.writeFile (d.pathOf id) text.toUTF8 = .ok after) :
    (RecordStore.write id text : Task DirectoryStore Unit).runOn d =
      ⟨.ok (), { d with files := after }, [⟨.debug, "wrote record " ++ (d.pathOf id).text⟩]⟩ := by
  simp only [runOn_write valid, created, written]

theorem runOn_write_of_unwritten {made : FileSystem} {text : String} {fault : SystemFault}
    (created : d.files.createFolders d.folder = (made, .ok ()))
    (refused : made.writeFile (d.pathOf id) text.toUTF8 = .error fault) :
    (RecordStore.write id text : Task DirectoryStore Unit).runOn d =
      ⟨.error (.system fault), { d with files := made }, []⟩ := by
  simp only [runOn_write valid, created, refused]

theorem runOn_write_of_uncreated {made : FileSystem} {fault : SystemFault}
    (refused : d.files.createFolders d.folder = (made, .error fault)) (text : String) :
    (RecordStore.write id text : Task DirectoryStore Unit).runOn d =
      ⟨.error (.system fault), { d with files := made }, []⟩ := by
  simp only [runOn_write valid, refused]

end Valid

section Refused

/-! An identifier that is not valid is refused before anything is looked up or changed. -/

variable {fault : StoreFault} (refused : Record.checkIdentifier id = .error (.store fault))
include refused

theorem runOn_holds_of_refused :
    (RecordStore.holds id : Task DirectoryStore Bool).runOn d = ⟨.error (.store fault), d, []⟩ := by
  change (DirectoryStore.holds id).runOn d = _
  rw [DirectoryStore.holds, refused]
  rfl

theorem runOn_read_of_refused :
    (RecordStore.read id : Task DirectoryStore String).runOn d =
      ⟨.error (.store fault), d, []⟩ := by
  rw [runOn_read, refused]
  rfl

theorem runOn_write_of_refused (text : String) :
    (RecordStore.write id text : Task DirectoryStore Unit).runOn d =
      ⟨.error (.store fault), d, []⟩ := by
  change (DirectoryStore.write id text).runOn d = _
  rw [DirectoryStore.write, refused]
  rfl

theorem runOn_remove_of_refused :
    (RecordStore.remove id : Task DirectoryStore Unit).runOn d =
      ⟨.error (.store fault), d, []⟩ := by
  change (DirectoryStore.remove id).runOn d = _
  rw [DirectoryStore.remove, refused]
  rfl

end Refused

end DirectoryStore

end ProfileShell
