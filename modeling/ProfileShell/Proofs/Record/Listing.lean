import ProfileShell.Proofs.FileSystem.Elsewhere
import ProfileShell.Proofs.Record.Mirroring

/-!
What the listing of a directory store tells of its other operations.

The identifiers are taken from the names of the files alone. A listed record can be used exactly if
its identifier is valid and its path is not too long; the others are listed and refused.
-/

set_option autoImplicit false
set_option relaxedAutoImplicit false

namespace ProfileShell

open Record (IsExtension fileName isValidIdentifier stem?)

namespace RecordStore

variable {σ : Type} [RecordStore σ]

def holdsByList (id : String) : Task σ Bool := do
  let ids ← identifiers
  pure (ids.contains id)

-- The store that refuses operations knows no way of its own.
example (id : String) : (holds id : Task RefusingStore Bool) = holdsByList id := rfl

end RecordStore

namespace DirectoryStore

def stems (extension : String) (entries : List (String × FileTree)) : List String :=
  (FileTree.folder entries).fileNames.filterMap fun name => stem? name extension

/-- The record in a file can be used: it is there, its text is read, and to remove it takes away its
file and nothing else. -/
structure Usable (d : DirectoryStore) (id : String) (content : ByteArray) : Prop where
  holds : (RecordStore.holds id : Task DirectoryStore Bool).runOn d = ⟨.ok true, d, []⟩
  reads : ∀ text, String.fromUTF8? content = some text →
    (RecordStore.read id : Task DirectoryStore String).runOn d = ⟨.ok text, d, []⟩
  unreadable : String.fromUTF8? content = none →
    (RecordStore.read id : Task DirectoryStore String).runOn d = ⟨.error (.system .notUtf8), d, []⟩
  removes : ∃ files log,
    (RecordStore.remove id : Task DirectoryStore Unit).runOn d = ⟨.ok (), { d with files }, log⟩ ∧
      files.entry? (d.pathOf id) = none ∧ FileSystem.SameBut (d.pathOf id) d.files files

/-- The store refuses to look for a record, to read it and to remove it, and stays as it is. -/
structure Shuns (d : DirectoryStore) (id : String) (fault : StoreFault) : Prop where
  holds : (RecordStore.holds id : Task DirectoryStore Bool).runOn d = ⟨.error (.store fault), d, []⟩
  read : (RecordStore.read id : Task DirectoryStore String).runOn d = ⟨.error (.store fault), d, []⟩
  remove : (RecordStore.remove id : Task DirectoryStore Unit).runOn d =
    ⟨.error (.store fault), d, []⟩

variable {d : DirectoryStore} {id : String} {place : Place} {entries : List (String × FileTree)}

private theorem exists_shuns_of_invalid (invalid : isValidIdentifier id = false) :
    ∃ fault, Shuns d id fault := by
  obtain ⟨fault, refused⟩ := Record.checkIdentifier_of_invalid invalid
  exact ⟨fault, runOn_holds_of_refused refused, runOn_read_of_refused refused,
    runOn_remove_of_refused refused⟩

private theorem mem_stems_iff (distinct : (entries.map Prod.fst).Nodup) (extension : String) :
    id ∈ stems extension entries ↔
      ∃ content, entries.lookup (fileName id extension) = some (.file content) := by
  rw [stems, List.mem_filterMap, ← FileTree.mem_fileNames_iff distinct]
  constructor
  · intro listed
    obtain ⟨name, member, own⟩ := listed
    rw [← Record.stem?_eq_some_iff.mp own]
    exact member
  · intro member
    exact ⟨_, member, Record.stem?_fileName id extension⟩

section Shown

variable (shows : d.files.Shows d.folder place entries)
include shows

private theorem runOn_identifiers_of_shows :
    (RecordStore.identifiers : Task DirectoryStore (List String)).runOn d =
      ⟨.ok (stems d.extension entries), d, []⟩ :=
  runOn_identifiers (runOn_fileNames_of_ok shows.listFiles)

private theorem runOn_holdsByList (id : String) :
    (RecordStore.holdsByList id : Task DirectoryStore Bool).runOn d =
      ⟨.ok ((stems d.extension entries).contains id), d, []⟩ := by
  rw [RecordStore.holdsByList, Task.runOn_bind_of_ok (runOn_identifiers_of_shows shows)]
  rfl

variable (legal : IsExtension d.extension) (valid : isValidIdentifier id = true)
include legal valid

private theorem entry?_pathOf :
    d.files.entry? (d.pathOf id) =
      if d.Fits id then entries.lookup (fileName id d.extension) else none := by
  have proper := isEntryName_fileName valid d.extension
  have nulless := Record.nul_not_mem_fileName legal valid
  obtain ⟨found, lost⟩ := shows.find_entry proper nulless
  rw [pathOf_eq legal valid, FileSystem.entry?]
  by_cases fits : d.Fits id
  · obtain ⟨spot, at_entry, -, there⟩ := found fits
    rw [at_entry, if_pos fits, ← there]
  · rw [lost fits, if_neg fits]

private theorem isFile_pathOf_iff :
    d.files.isFile (d.pathOf id) = true ↔
      d.Fits id ∧ ∃ content, entries.lookup (fileName id d.extension) = some (.file content) := by
  rw [FileSystem.isFile, entry?_pathOf shows legal valid]
  by_cases fits : d.Fits id
  · rw [if_pos fits]
    cases entries.lookup (fileName id d.extension) with
    | none => simp [fits]
    | some entry => cases entry <;> simp [fits]
  · simp [fits]

private theorem usable_of_fits (fits : d.Fits id) {content : ByteArray}
    (file : entries.lookup (fileName id d.extension) = some (.file content)) :
    Usable d id content := by
  have proper := isEntryName_fileName valid d.extension
  have nulless := Record.nul_not_mem_fileName legal valid
  obtain ⟨spot, at_entry, -, there⟩ := (shows.find_entry proper nulless).1 fits
  have path := pathOf_eq legal valid
  have found : d.files.find (d.pathOf id) = .ok spot := by
    rw [path]
    exact at_entry
  have holds := there.trans file
  refine ⟨?_, ?_, ?_, ?_⟩
  · rw [runOn_holds valid, (isFile_pathOf_iff shows legal valid).mpr ⟨fits, content, file⟩]
  · intro text decoded
    have read : d.files.readText (d.pathOf id) = .ok text := by
      simp only [FileSystem.readText, found, bind, Except.bind, holds, decoded]
    exact runOn_read_of_ok valid read
  · intro undecoded
    have refused : d.files.readText (d.pathOf id) = .error .notUtf8 := by
      simp only [FileSystem.readText, found, bind, Except.bind, holds, undecoded]
    exact runOn_read_of_error valid refused
  · obtain ⟨files, removed, shown⟩ := shows.removeFile_entry proper nulless file fits
    have same := FileSystem.sameBut_of_removeFile removed
    rw [← path] at removed same
    refine ⟨files, _, runOn_remove_of_ok valid removed, ?_, same⟩
    have gone := entry?_pathOf (d := { d with files }) shown legal valid
    rw [FileTree.lookup_filter, if_pos rfl, ite_self] at gone
    exact gone

omit valid in
private theorem usable_iff {content : ByteArray}
    (file : entries.lookup (fileName id d.extension) = some (.file content)) :
    Usable d id content ↔ isValidIdentifier id = true ∧ d.Fits id := by
  constructor
  · intro usable
    cases valid : isValidIdentifier id with
    | false =>
      obtain ⟨fault, shuns⟩ := exists_shuns_of_invalid (d := d) valid
      cases shuns.holds.symm.trans usable.holds
    | true =>
      have there : d.files.isFile (d.pathOf id) = true := by
        have answers := congrArg Run.answer ((runOn_holds valid).symm.trans usable.holds)
        exact Except.ok.inj answers
      exact ⟨rfl, ((isFile_pathOf_iff shows legal valid).mp there).1⟩
  · intro both
    exact usable_of_fits shows legal both.1 both.2 file

omit valid in
private theorem runOn_holds_eq_iff (distinct : (entries.map Prod.fst).Nodup) (id : String) :
    (RecordStore.holds id : Task DirectoryStore Bool).runOn d =
        (RecordStore.holdsByList id).runOn d ↔
      isValidIdentifier id = true ∧ (id ∈ stems d.extension entries → d.Fits id) := by
  rw [runOn_holdsByList shows]
  cases valid : isValidIdentifier id with
  | false =>
    obtain ⟨fault, shuns⟩ := exists_shuns_of_invalid (d := d) valid
    rw [shuns.holds]
    simp
  | true =>
    have file := isFile_pathOf_iff shows legal valid
    rw [← mem_stems_iff distinct] at file
    rw [runOn_holds valid]
    simp only [Run.mk.injEq, Except.ok.injEq, and_true, true_and]
    rw [Bool.eq_iff_iff, file, List.contains_iff_mem]
    constructor
    · intro same listed
      exact (same.mpr listed).1
    · intro fits
      exact ⟨And.right, fun listed => ⟨fits listed, listed⟩⟩

end Shown

/-- A listed record can be used exactly if its identifier is valid and its path not too long, and
whether it is there is answered as the listing tells in the same case. Every identifier that is not
valid is refused, listed or not. -/
theorem listed_record_usable_iff (legal : IsExtension d.extension)
    (shows : d.files.Shows d.folder place entries) (distinct : (entries.map Prod.fst).Nodup) :
    ∃ ids, (RecordStore.identifiers : Task DirectoryStore (List String)).runOn d =
        ⟨.ok ids, d, []⟩ ∧
      (∀ id ∈ ids, ∃ content,
        entries.lookup (fileName id d.extension) = some (.file content) ∧
          (Usable d id content ↔ isValidIdentifier id = true ∧ d.Fits id)) ∧
      (∀ id, (RecordStore.holds id : Task DirectoryStore Bool).runOn d =
          (RecordStore.holdsByList id).runOn d ↔
        isValidIdentifier id = true ∧ (id ∈ ids → d.Fits id)) ∧
      ∀ id, isValidIdentifier id = false → ∃ fault, Shuns d id fault := by
  refine ⟨_, runOn_identifiers_of_shows shows, ?_, ?_, ?_⟩
  · intro id listed
    obtain ⟨content, file⟩ := (mem_stems_iff distinct d.extension).mp listed
    exact ⟨content, file, usable_iff shows legal file⟩
  · intro id
    exact runOn_holds_eq_iff shows legal distinct id
  · intro id invalid
    exact exists_shuns_of_invalid invalid

def besideHidden : DirectoryStore :=
  ⟨⟨.folder [("saves", .folder [("hero.json", .file "x".toUTF8), (".hidden.json", .file "y".toUTF8),
    ("inner.json", .empty)])], []⟩, .ofText "saves", "json"⟩

theorem listed_record_usable_iff_besideHidden :
    IsExtension besideHidden.extension ∧ Usable besideHidden "hero" "x".toUTF8 ∧
      (RecordStore.holds "hero" : Task DirectoryStore Bool).runOn besideHidden =
        (RecordStore.holdsByList "hero").runOn besideHidden ∧
      ¬Usable besideHidden ".hidden" "y".toUTF8 := by
  have legal : IsExtension besideHidden.extension := ⟨by decide, by decide⟩
  have shows : besideHidden.files.Shows besideHidden.folder ["saves"]
      [("hero.json", .file "x".toUTF8), (".hidden.json", .file "y".toUTF8),
        ("inner.json", .empty)] := ⟨by decide, rfl, rfl⟩
  obtain ⟨ids, listed, usable, looked, -⟩ := listed_record_usable_iff legal shows (by decide)
  have known : ids = ["hero", ".hidden"] := by
    have answers := congrArg Run.answer listed
    have both : ((RecordStore.identifiers : Task DirectoryStore (List String)).runOn
        besideHidden).answer = .ok ["hero", ".hidden"] := by decide +kernel
    exact Except.ok.inj (answers.symm.trans both)
  subst known
  obtain ⟨content, file, iff⟩ := usable "hero" (by decide)
  cases file
  obtain ⟨hidden, fileToo, iffToo⟩ := usable ".hidden" (by decide)
  cases fileToo
  have both : isValidIdentifier "hero" = true ∧ besideHidden.Fits "hero" := by decide
  refine ⟨legal, iff.mpr both, (looked "hero").mpr ⟨both.1, fun _ => both.2⟩, ?_⟩
  rw [iffToo]
  decide

/-- A hidden file with the extension of the records is listed, but its record is refused. -/
theorem hidden_record_is_listed_and_refused :
    let refusal : StoreFault := .invalidIdentifier ".hidden"
    ((RecordStore.identifiers : Task DirectoryStore (List String)).runOn besideHidden).answer =
        .ok ["hero", ".hidden"] ∧
      ((RecordStore.holdsByList ".hidden" : Task DirectoryStore Bool).runOn besideHidden).answer =
        .ok true ∧
      ((RecordStore.holds ".hidden" : Task DirectoryStore Bool).runOn besideHidden).answer =
        .error (.store refusal) ∧
      ((RecordStore.read ".hidden" : Task DirectoryStore String).runOn besideHidden).answer =
        .error (.store refusal) ∧
      ((RecordStore.remove ".hidden" : Task DirectoryStore Unit).runOn besideHidden).answer =
        .error (.store refusal) := by
  decide +kernel

end DirectoryStore

end ProfileShell
