import ProfileShell.Proofs.FileSystem.Creation

/-!
What the file at a path tells.

A file that is there can be removed. The path to its folder passes every check that its own path
passes, unless it is empty, so the folder can be listed.
-/

set_option autoImplicit false
set_option relaxedAutoImplicit false

namespace ProfileShell

namespace Path

private theorem utf8ByteSize_text_snoc {names : List String} (nonempty : names ≠ [])
    (name : String) : (Path.mk (names ++ [name])).text.utf8ByteSize =
      (Path.mk names).text.utf8ByteSize + 1 + name.utf8ByteSize := by
  unfold text
  rw [String.intercalate_append_of_ne_nil nonempty (List.cons_ne_nil name []),
    String.intercalate_singleton, String.utf8ByteSize_append, String.utf8ByteSize_append]
  rfl

private theorem utf8ByteSize_text_le {names : List String} (nonempty : names ≠ [])
    (rest : List String) :
    (Path.mk names).text.utf8ByteSize ≤ (Path.mk (names ++ rest)).text.utf8ByteSize := by
  induction rest using List.reverseRecOn with
  | nil => rw [List.append_nil]
  | append_singleton rest last ih =>
    have some : names ++ rest ≠ [] := List.append_ne_nil_of_left_ne_nil nonempty rest
    rw [← List.append_assoc, utf8ByteSize_text_snoc some]
    omega

private theorem names_of_unnamed {p : Path} (unnamed : p.text = "") :
    p.names = [] ∨ p.names = [""] := by
  obtain ⟨names⟩ := p
  rcases List.eq_nil_or_concat names with rfl | ⟨front, last, rfl⟩
  · exact Or.inl rfl
  · rw [List.concat_eq_append] at unnamed ⊢
    by_cases single : front = []
    · subst single
      have empty : last = "" := by simpa [text] using unnamed
      exact Or.inr (by rw [empty]; rfl)
    · have sizes := utf8ByteSize_text_snoc single last
      rw [unnamed, String.utf8ByteSize_empty] at sizes
      omega

private theorem entry_of_unnamed {p : Path} (unnamed : p.text = "") (name : String) :
    p.entry name = ⟨[name]⟩ := by
  rcases names_of_unnamed unnamed with none | empty
  · simp [entry, join, isAbsolute, isSlashed, none]
  · simp [entry, join, isAbsolute, isSlashed, empty]

theorem exists_ofText_eq {text : String} {c : Char} {cs : List Char}
    (begins : text.toList = c :: cs)
    (slashless : c ≠ '/') : ∃ first rest, ofText text = ⟨first :: rest⟩ ∧ first ≠ "" := by
  rw [ofText, begins, splitAt, if_neg slashless]
  split
  · exact ⟨String.ofList [c], [], rfl, by simp⟩
  · rename_i part parts _
    exact ⟨String.ofList (c :: part), parts.map String.ofList, rfl, by simp⟩

private theorem names_join {first : String} (nonempty : first ≠ "") (p : Path)
    (rest : List String) : (p.join ⟨first :: rest⟩).names = (p.entry first).names ++ rest := by
  have relative : ∀ names, (Path.mk (first :: names)).isAbsolute = false := by
    intro names
    rw [← Bool.not_eq_true, isAbsolute_iff]
    simp [nonempty]
  rw [entry, join, join, relative, relative, if_neg Bool.false_ne_true, if_neg Bool.false_ne_true]
  split <;> simp

end Path

namespace FileSystem

open ProfileShell.Path (IsEntryName)

variable {fs : FileSystem} {p : Path} {name : String}

theorem exists_spot_of_isFile (file : fs.isFile p = true) :
    ∃ spot content, fs.find p = .ok spot ∧ spot.entry = some (.file content) := by
  unfold isFile entry? at file
  cases found : fs.find p with
  | error fault => simp [found] at file
  | ok spot =>
    simp only [found] at file
    split at file
    · rename_i content there
      exact ⟨spot, content, rfl, there⟩
    · cases file

private theorem checkPath_of_isFile (file : fs.isFile p = true) : checkPath p = .ok () := by
  obtain ⟨spot, content, found, -⟩ := exists_spot_of_isFile file
  exact (find_eq_ok_iff.mp found).1

theorem exists_removeFile_of_isFile (file : fs.isFile p = true) :
    ∃ after, fs.removeFile p = .ok after := by
  obtain ⟨spot, content, found, there⟩ := exists_spot_of_isFile file
  refine ⟨{ fs with root := fs.root.erase spot.place }, ?_⟩
  simp only [removeFile, found, bind, Except.bind, there]

private theorem checkPath_eq_ok_iff (p : Path) :
    checkPath p = .ok () ↔ (∀ name ∈ p.names, '\x00' ∉ name.toList) ∧ p.text ≠ "" ∧
      p.text.utf8ByteSize ≤ maxPathSize := by
  unfold checkPath
  by_cases dirty : (p.names.any fun name => name.toList.contains '\x00') = true
  · rw [if_pos dirty]
    simp only [reduceCtorEq, false_iff]
    rintro ⟨clean, -⟩
    obtain ⟨name, member, nul⟩ := List.any_eq_true.mp dirty
    exact clean name member (by simpa using nul)
  · have clean : ∀ name ∈ p.names, '\x00' ∉ name.toList := by simpa using dirty
    rw [if_neg dirty]
    rw [and_iff_right clean]
    by_cases empty : p.text = ""
    · simp [empty]
    · by_cases long : maxPathSize < p.text.utf8ByteSize
      · simp [empty, long]
      · simp [empty, long, Nat.le_of_not_lt long]

private theorem nulless_of_entry (clean : ∀ other ∈ (p.entry name).names, '\x00' ∉ other.toList) :
    ∀ other ∈ p.names, '\x00' ∉ other.toList := by
  obtain ⟨stem, entry, whole⟩ := p.names_entry name
  rw [entry] at clean
  intro other member
  rcases whole with same | same <;> rw [same] at member
  · exact clean other (List.mem_append_left _ member)
  · rcases List.mem_append.mp member with before | last
    · exact clean other (List.mem_append_left _ before)
    · rw [List.mem_singleton.mp last]
      exact List.not_mem_nil

private theorem checkPath_of_entry (checked : checkPath (p.entry name) = .ok ())
    (named : p.text ≠ "") : checkPath p = .ok () := by
  obtain ⟨stem, entry, whole⟩ := p.names_entry name
  obtain ⟨clean, -, short⟩ := (checkPath_eq_ok_iff _).mp checked
  have path : p.entry name = ⟨stem ++ [name]⟩ := congrArg Path.mk entry
  rw [path] at short
  have some : stem ≠ [] := by
    rintro rfl
    apply named
    unfold Path.text
    rcases whole with same | same <;> rw [same] <;> rfl
  rw [Path.utf8ByteSize_text_snoc some] at short
  rw [checkPath_eq_ok_iff]
  refine ⟨nulless_of_entry clean, named, ?_⟩
  rcases whole with same | same
  · have path : p = ⟨stem⟩ := congrArg Path.mk same
    rw [path]
    omega
  · have path : p = ⟨stem ++ [""]⟩ := congrArg Path.mk same
    rw [path, Path.utf8ByteSize_text_snoc some, String.utf8ByteSize_empty]
    omega

theorem exists_place?_of_entry {reached : Place} (led : fs.place? (p.entry name) = .ok reached) :
    ∃ place, fs.place? p = .ok place ∧ fs.root.follow place name = .ok reached := by
  obtain ⟨stem, entry, whole⟩ : ∃ stem, fs.fullNames (p.entry name) = stem ++ [name] ∧
      (fs.fullNames p = stem ∨ fs.fullNames p = stem ++ [""]) := by
    by_cases named : p.text = ""
    · refine ⟨fs.current, ?_, ?_⟩
      · rw [Path.entry_of_unnamed named, fullNames, if_neg (by simp [Path.isAbsolute])]
      · rcases Path.names_of_unnamed named with none | empty
        · left
          simp [fullNames, Path.isAbsolute, none]
        · right
          simp [fullNames, Path.isAbsolute, empty]
    · exact fs.fullNames_entry named name
  rw [place?, entry] at led
  obtain ⟨place, before, last⟩ := FileTree.followAll_snoc_eq_ok_iff.mp led
  obtain ⟨entries, there⟩ := FileTree.hasFolder_of_follow last
  have stayed : fs.root.follow place "" = .ok place := by
    simp [FileTree.follow, there, Path.staysPut]
  refine ⟨place, ?_, last⟩
  rw [place?]
  rcases whole with same | same <;> rw [same]
  · exact before
  · exact FileTree.followAll_snoc_eq_ok_iff.mpr ⟨place, before, stayed⟩

private theorem exists_shows_of_entry (named : p.text ≠ "")
    (checked : checkPath (p.entry name) = .ok ())
    {reached : Place} (led : fs.place? (p.entry name) = .ok reached) :
    ∃ place entries, fs.Shows p place entries := by
  obtain ⟨place, arrived, last⟩ := exists_place?_of_entry led
  obtain ⟨entries, there⟩ := FileTree.hasFolder_of_follow last
  exact ⟨place, entries, checkPath_of_entry checked named, arrived, there⟩

theorem listFiles_of_isFile_entry (file : fs.isFile (p.entry name) = true) :
    (∃ names, fs.listFiles p = .ok names) ∨ fs.listFiles p = .error .noSuchEntry := by
  by_cases named : p.text = ""
  · have clean := nulless_of_entry ((checkPath_eq_ok_iff _).mp (checkPath_of_isFile file)).1
    have refused : checkPath p = .error .noSuchEntry := by
      rw [checkPath, if_neg (by simpa using clean), if_pos (String.isEmpty_iff.mpr named)]
    right
    rw [listFiles, find, refused]
    rfl
  · obtain ⟨spot, content, found, -⟩ := exists_spot_of_isFile file
    obtain ⟨checked, reached, led, -⟩ := find_eq_ok_iff.mp found
    obtain ⟨place, entries, shows⟩ := exists_shows_of_entry named checked led
    exact Or.inl ⟨_, shows.listFiles⟩

private theorem checkPath_of_begins {q : Path} (begins : q.names <+: p.names) (named : q.text ≠ "")
    (checked : checkPath p = .ok ()) : checkPath q = .ok () := by
  obtain ⟨clean, -, short⟩ := (checkPath_eq_ok_iff p).mp checked
  obtain ⟨rest, whole⟩ := begins
  have some : q.names ≠ [] := by
    intro none
    apply named
    rw [Path.text, none]
    rfl
  have path : p = ⟨q.names ++ rest⟩ := congrArg Path.mk whole.symm
  rw [checkPath_eq_ok_iff]
  refine ⟨?_, named, ?_⟩
  · intro name member
    exact clean name (whole ▸ List.mem_append_left rest member)
  · rw [path] at short
    exact (Path.utf8ByteSize_text_le some rest).trans short

/-- To create the folder that a path goes on from, where the path leads anywhere, changes nothing.
-/
theorem createFolders_of_join {first : String} {rest : List String} (nonempty : first ≠ "")
    (checked : checkPath (p.join ⟨first :: rest⟩) = .ok ())
    {reached : Place} (led : fs.place? (p.join ⟨first :: rest⟩) = .ok reached) :
    fs.createFolders p = (fs, .ok ()) := by
  by_cases named : p.text = ""
  · rw [createFolders, Path.upward, if_pos (String.isEmpty_iff.mpr named)]
    rfl
  · have whole := Path.names_join nonempty p rest
    have begins : (p.entry first).names <+: (p.join ⟨first :: rest⟩).names := ⟨rest, whole.symm⟩
    obtain ⟨stem, entry, -⟩ := p.names_entry first
    have entryNamed : (p.entry first).text ≠ "" := by
      have path : p.entry first = ⟨stem ++ [first]⟩ := congrArg Path.mk entry
      rw [path]
      exact Path.text_snoc_ne_empty nonempty
    have start := fs.start_of_prefix begins (by rw [entry]; simp) nonempty
    rw [place?, fullNames_eq, ← start, whole, ← List.append_assoc, ← fullNames_eq] at led
    obtain ⟨place, inner, -⟩ := FileTree.followAll_append_eq_ok_iff.mp led
    have entryChecked := checkPath_of_begins begins entryNamed checked
    obtain ⟨folder, entries, shows⟩ := exists_shows_of_entry named entryChecked inner
    exact shows.createFolders

end FileSystem

end ProfileShell
