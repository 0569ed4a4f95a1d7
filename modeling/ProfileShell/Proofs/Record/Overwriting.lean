import ProfileShell.Proofs.FileSystem.Elsewhere
import ProfileShell.Proofs.Record.Browsing

/-!
Writing over a record of a directory store.

A record that can be read has its folder, so to write it again changes its file and nothing else.
With an extension that holds no slash no other identifier leads to this file. An extension that goes
up by two dots can make several identifiers share one file, and then they share one record.
-/

set_option autoImplicit false
set_option relaxedAutoImplicit false

namespace ProfileShell.DirectoryStore

open ProfileShell.Task (Ensures)
open Record (IsExtension isValidIdentifier)
open RecordStore (recordAt)

variable {d after : DirectoryStore} {id other old : String}

def SharesFile (d : DirectoryStore) (id other : String) : Prop :=
  isValidIdentifier other = true ∧ d.files.place? (d.pathOf other) = d.files.place? (d.pathOf id)

/-- Nothing has changed but the file of a record, and no record but those in that file. -/
structure ChangedOnly (id : String) (d after : DirectoryStore) : Prop where
  folder : after.folder = d.folder
  extension : after.extension = d.extension
  files : FileSystem.SameBut (d.pathOf id) d.files after.files
  others : ∀ other, ¬d.SharesFile id other → recordAt after other = recordAt d other

private theorem ChangedOnly.refl (id : String) (d : DirectoryStore) : ChangedOnly id d d :=
  ⟨rfl, rfl, .refl _ _, fun _ _ => rfl⟩

private theorem exists_pathOf_eq (valid : isValidIdentifier id = true) (d : DirectoryStore) :
    ∃ first rest, d.pathOf id = d.folder.join ⟨first :: rest⟩ ∧ first ≠ "" := by
  obtain ⟨c, cs, letters, -, slashless, -⟩ := Record.exists_of_isValidIdentifier valid
  have begins :
      (Record.fileName id d.extension).toList = c :: (cs ++ '.' :: d.extension.toList) := by
    rw [Record.toList_fileName, letters]
    rfl
  have proper : c ≠ '/' := by
    intro slash
    exact slashless (by rw [letters, slash]; exact List.mem_cons_self)
  obtain ⟨first, rest, path, nonempty⟩ := Path.exists_ofText_eq begins proper
  exact ⟨first, rest, by rw [pathOf, path], nonempty⟩

section Readable

variable (read : recordAt d id = .ok old)
include read

private theorem exists_place_of_recordAt :
    ∃ place, FileSystem.checkPath (d.pathOf id) = .ok () ∧
      d.files.place? (d.pathOf id) = .ok place := by
  have file := FileSystem.isFile_of_readText (recordAt_eq_ok_iff.mp read).2
  obtain ⟨spot, content, found, -⟩ := FileSystem.exists_spot_of_isFile file
  obtain ⟨checked, place, led, -⟩ := FileSystem.find_eq_ok_iff.mp found
  exact ⟨place, checked, led⟩

private theorem createFolders_of_recordAt : d.files.createFolders d.folder = (d.files, .ok ()) := by
  obtain ⟨place, checked, led⟩ := exists_place_of_recordAt read
  obtain ⟨first, rest, path, nonempty⟩ := exists_pathOf_eq (recordAt_eq_ok_iff.mp read).1 d
  rw [path] at checked led
  exact FileSystem.createFolders_of_join nonempty checked led

theorem write_ensures_changedOnly (text : String) :
    (RecordStore.write id text : Task DirectoryStore Unit).Ensures d fun _ after =>
      ChangedOnly id d after := by
  obtain ⟨valid, content⟩ := recordAt_eq_ok_iff.mp read
  have created := createFolders_of_recordAt read
  rw [Ensures]
  cases written : d.files.writeFile (d.pathOf id) text.toUTF8 with
  | error fault =>
    rw [runOn_write_of_unwritten valid created written]
    exact .refl id d
  | ok files =>
    rw [runOn_write_of_ok valid created written]
    refine ⟨rfl, rfl, FileSystem.sameBut_of_writeFile written, ?_⟩
    intro other apart
    apply recordAt_congr
    intro validToo
    have file := FileSystem.isFile_of_readText content
    exact FileSystem.readText_of_writeFile_elsewhere file written fun same => apart ⟨validToo, same⟩

/-- With an extension that file names can end in, no other identifier leads to the file. -/
theorem eq_of_sharesFile (legal : IsExtension d.extension) (shares : d.SharesFile id other) :
    other = id := by
  obtain ⟨validOther, same⟩ := shares
  obtain ⟨place, -, led⟩ := exists_place_of_recordAt read
  have valid := (recordAt_eq_ok_iff.mp read).1
  have proper := isEntryName_fileName valid d.extension
  have properOther := isEntryName_fileName validOther d.extension
  rw [pathOf_eq legal valid] at led
  rw [pathOf_eq legal valid, pathOf_eq legal validOther] at same
  by_contra different
  have names : Record.fileName other d.extension ≠ Record.fileName id d.extension := by
    intro equal
    exact different (Record.fileName_injective equal)
  exact FileSystem.place?_entry_ne proper properOther names led same

end Readable

-- Two dots lead back from both folders to the same file.
example :
    let d : DirectoryStore :=
      ⟨⟨.folder [("a.x", .empty), ("b.x", .empty), ("y", .file .empty)], []⟩, .ofText ".", "x/../y"⟩
    d.SharesFile "a" "b" := ⟨by decide, by cbv⟩

end ProfileShell.DirectoryStore
