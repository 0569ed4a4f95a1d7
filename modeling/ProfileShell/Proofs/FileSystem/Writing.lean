import ProfileShell.Proofs.FileSystem.Creation

/-!
A file that was written is found with its content.

A path that leads to a file, or to nothing, ends at a name in some folder, however it is written. A
file that is put there takes no folder away, so the path still leads to it.
-/

set_option autoImplicit false
set_option relaxedAutoImplicit false

namespace ProfileShell

theorem fromUTF8?_toUTF8 (text : String) : String.fromUTF8? text.toUTF8 = some text := by
  unfold String.fromUTF8? String.toUTF8
  rw [dif_pos text.isValidUTF8]
  rfl

namespace FileTree

open ProfileShell.Path (IsEntryName)

variable {root : FileTree} {place reached : Place} {name : String} {names : List String}

theorem eq_of_follow_entry (proper : IsEntryName name)
    (led : root.follow place name = .ok reached) : reached = place ++ [name] := by
  obtain ⟨entries, found⟩ := hasFolder_of_follow led
  simp only [follow, found, proper.1, Bool.false_eq_true, if_false, beq_iff_eq, proper.2] at led
  split at led
  · cases led
  · exact (Except.ok.inj led).symm

private theorem hasFolder_of_followAll (led : root.followAll place names = .ok reached)
    (some : names ≠ []) : root.HasFolder place := by
  obtain ⟨name, rest, rfl⟩ := List.exists_cons_of_ne_nil some
  obtain ⟨next, first, -⟩ := followAll_cons_eq_ok_iff.mp led
  exact hasFolder_of_follow first

end FileTree

namespace FileSystem

open ProfileShell.Path (IsEntryName)

variable {fs after : FileSystem} {p : Path} {name : String} {place : Place} {content : ByteArray}

private theorem fullNames_ne_nil (checked : checkPath p = .ok ()) (fs : FileSystem) :
    fs.fullNames p ≠ [] := by
  intro none
  rw [fullNames_eq] at none
  have empty : p = ⟨[]⟩ := congrArg Path.mk (List.append_eq_nil_iff.mp none).2
  apply text_ne_empty_of_checked checked
  rw [empty]
  rfl

private theorem exists_parent_of_place? (checked : checkPath p = .ok ())
    (led : fs.place? p = .ok place) (single : ¬fs.root.HasFolder place) :
    ∃ above name, place = above ++ [name] ∧ fs.root.HasFolder above := by
  rcases FileTree.parent_of_followAll led with rfl | parent
  · exact absurd (FileTree.hasFolder_of_followAll led (fullNames_ne_nil checked fs)) single
  · exact parent

theorem exists_folder_of_place?_entry (proper : IsEntryName name) {reached : Place}
    (led : fs.place? (p.entry name) = .ok reached) :
    ∃ place, reached = place ++ [name] ∧ fs.root.HasFolder place := by
  obtain ⟨stem, entry, -⟩ := p.names_entry name
  rw [place?, fullNames_eq, entry, ← List.append_assoc] at led
  obtain ⟨place, -, last⟩ := FileTree.followAll_snoc_eq_ok_iff.mp led
  exact ⟨place, FileTree.eq_of_follow_entry proper last, FileTree.hasFolder_of_follow last⟩

private theorem find_of_findForFile {spot : Spot} (found : fs.findForFile p = .ok spot) :
    fs.find p = .ok spot := by
  cases checked : checkPath p with
  | error fault =>
    rw [findForFile, checked] at found
    cases found
  | ok _ =>
    rw [findForFile, checked] at found
    by_cases slashed : p.isSlashed = true
    · simp only [bind, Except.bind, slashed, if_true] at found
      split at found <;> cases found
    · simp only [bind, Except.bind, slashed] at found
      rw [find, checked]
      exact found

theorem exists_put_of_writeFile (written : fs.writeFile p content = .ok after) :
    ∃ place name, checkPath p = .ok () ∧ fs.place? p = .ok (place ++ [name]) ∧
      fs.root.HasFolder place ∧ ¬fs.root.HasFolder (place ++ [name]) ∧
      after = { fs with root := fs.root.put (place ++ [name]) (.file content) } := by
  rw [writeFile] at written
  cases sought : fs.findForFile p with
  | error fault =>
    rw [sought] at written
    cases written
  | ok spot =>
    obtain ⟨checked, reached, led, rfl⟩ := find_eq_ok_iff.mp (find_of_findForFile sought)
    rw [sought] at written
    simp only [bind, Except.bind, Spot.place_standing] at written
    split at written
    · cases written
    · rename_i free
      have single : ¬fs.root.HasFolder reached := fun ⟨entries, folder⟩ => free entries folder
      obtain ⟨place, name, rfl, parent⟩ := exists_parent_of_place? checked led single
      exact ⟨place, name, checked, led, parent, single, (Except.ok.inj written).symm⟩

theorem exists_erase_of_removeFile (removed : fs.removeFile p = .ok after) :
    ∃ place name, fs.place? p = .ok (place ++ [name]) ∧ fs.root.HasFolder place ∧
      ¬fs.root.HasFolder (place ++ [name]) ∧
      after = { fs with root := fs.root.erase (place ++ [name]) } := by
  rw [removeFile] at removed
  cases found : fs.find p with
  | error fault =>
    rw [found] at removed
    cases removed
  | ok spot =>
    obtain ⟨checked, reached, led, rfl⟩ := find_eq_ok_iff.mp found
    rw [found] at removed
    simp only [bind, Except.bind, Spot.place_standing] at removed
    split at removed
    · rename_i old file
      have single : ¬fs.root.HasFolder reached := by
        intro ⟨entries, folder⟩
        have same : some (FileTree.file old) = some (.folder entries) := file.symm.trans folder
        cases same
      obtain ⟨place, name, rfl, parent⟩ := exists_parent_of_place? checked led single
      exact ⟨place, name, led, parent, single, (Except.ok.inj removed).symm⟩
    · cases removed
    · cases removed

theorem exists_place_of_writeFile (written : fs.writeFile p content = .ok after) :
    ∃ place, checkPath p = .ok () ∧ fs.place? p = .ok place ∧ after.place? p = .ok place ∧
      after.root.get? place = some (.file content) := by
  obtain ⟨place, name, checked, led, parent, single, rfl⟩ := exists_put_of_writeFile written
  have more := FileTree.extends_put parent single (.file content)
  refine ⟨_, checked, led, FileTree.followAll_of_extends more led, ?_⟩
  obtain ⟨entries, folder⟩ := parent
  have put := FileTree.get?_put folder name (.file content)
  exact (FileTree.get?_child put name).trans (by rw [FileTree.lookup_putEntry, if_pos rfl])

theorem isFile_of_readText {text : String} (read : fs.readText p = .ok text) :
    fs.isFile p = true := by
  unfold readText at read
  cases found : fs.find p with
  | error fault =>
    rw [found] at read
    cases read
  | ok spot =>
    simp only [found, bind, Except.bind] at read
    simp only [isFile, entry?, found]
    cases there : spot.entry with
    | none => simp [there] at read
    | some entry =>
      cases entry with
      | file content => rfl
      | folder entries => simp [there] at read

/-- A text that was written is read back. -/
theorem readText_of_writeFile {text : String}
    (written : fs.writeFile p text.toUTF8 = .ok after) : after.readText p = .ok text := by
  obtain ⟨place, checked, -, led, file⟩ := exists_place_of_writeFile written
  simp only [readText, find_eq checked, led, Except.map, bind, Except.bind, Spot.standing, file,
    fromUTF8?_toUTF8]

end FileSystem

end ProfileShell
