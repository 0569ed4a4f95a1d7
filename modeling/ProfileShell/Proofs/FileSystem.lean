import ProfileShell.FileSystem
import ProfileShell.Proofs.FileTree

/-!
Where paths lead.

A walk depends on its place in the tree only, so it is followed from place to place. It goes the
same way in every tree that has the folders of the first one. A file of a folder is reached through
the folder's place, however the folder's path is written.
-/

set_option autoImplicit false
set_option relaxedAutoImplicit false

namespace ProfileShell

namespace FileTree

/-- The place that a name leads to from a place. -/
def follow (root : FileTree) (place : Place) (name : String) : Except SystemFault Place :=
  match root.get? place with
  | none => .error .noSuchEntry
  | some (.file _) => .error .notDirectory
  | some (.folder _) =>
    if Path.staysPut name then .ok place
    else if name == ".." then .ok place.dropLast
    else if Spot.maxNameSize < name.utf8ByteSize then .error .nameTooLong
    else .ok (place ++ [name])

def followAll (root : FileTree) (place : Place) (names : List String) :
    Except SystemFault Place :=
  names.foldlM (follow root) place

variable {root other : FileTree} {place reached : Place} {name : String} {names : List String}

theorem followAll_cons (root : FileTree) (place : Place) (name : String) (names : List String) :
    root.followAll place (name :: names) =
      (root.follow place name).bind fun next => root.followAll next names := rfl

theorem followAll_append (root : FileTree) (place : Place) (names more : List String) :
    root.followAll place (names ++ more) =
      (root.followAll place names).bind fun next => root.followAll next more :=
  List.foldlM_append

private theorem followAll_snoc (root : FileTree) (place : Place) (names : List String)
    (name : String) : root.followAll place (names ++ [name]) =
      (root.followAll place names).bind fun next => root.follow next name := by
  rw [followAll_append]
  cases root.followAll place names with
  | error e => rfl
  | ok next =>
    show (root.follow next name).bind _ = root.follow next name
    cases root.follow next name <;> rfl

private theorem bind_eq_ok_iff {x : Except SystemFault Place}
    {f : Place → Except SystemFault Place} :
    x.bind f = .ok reached ↔ ∃ next, x = .ok next ∧ f next = .ok reached := by
  cases x <;> simp [Except.bind]

theorem followAll_cons_eq_ok_iff : root.followAll place (name :: names) = .ok reached ↔
    ∃ next, root.follow place name = .ok next ∧ root.followAll next names = .ok reached := by
  rw [followAll_cons, bind_eq_ok_iff]

theorem followAll_append_eq_ok_iff {more : List String} :
    root.followAll place (names ++ more) = .ok reached ↔
      ∃ next, root.followAll place names = .ok next ∧ root.followAll next more = .ok reached := by
  rw [followAll_append, bind_eq_ok_iff]

theorem followAll_snoc_eq_ok_iff : root.followAll place (names ++ [name]) = .ok reached ↔
    ∃ next, root.followAll place names = .ok next ∧ root.follow next name = .ok reached := by
  rw [followAll_snoc, bind_eq_ok_iff]

theorem hasFolder_of_follow (led : root.follow place name = .ok reached) :
    root.HasFolder place := by
  unfold follow at led
  split at led
  · cases led
  · cases led
  · exact ⟨_, ‹_›⟩

private theorem follow_of_extends (more : Extends root other)
    (led : root.follow place name = .ok reached) : other.follow place name = .ok reached := by
  obtain ⟨entries, found⟩ := hasFolder_of_follow led
  obtain ⟨others, kept⟩ := more place ⟨entries, found⟩
  unfold follow at led ⊢
  rw [found] at led
  rw [kept]
  exact led

theorem followAll_of_extends (more : Extends root other)
    (led : root.followAll place names = .ok reached) :
    other.followAll place names = .ok reached := by
  induction names generalizing place with
  | nil => exact led
  | cons name names ih =>
    obtain ⟨next, first, rest⟩ := followAll_cons_eq_ok_iff.mp led
    exact followAll_cons_eq_ok_iff.mpr ⟨next, follow_of_extends more first, ih rest⟩

/-- There is nothing where the names lead, or no folder on the way. -/
def Absent (root : FileTree) (names : List String) : Prop :=
  root.followAll [] names = .error .noSuchEntry ∨
    ∃ place, root.followAll [] names = .ok place ∧ root.get? place = none

def LeadsToFolder (root : FileTree) (names : List String) : Prop :=
  ∃ place, root.followAll [] names = .ok place ∧ root.HasFolder place

theorem Absent.not_leadsToFolder (absent : Absent root names) : ¬LeadsToFolder root names := by
  rintro ⟨place, led, entries, found⟩
  rcases absent with fault | ⟨nowhere, other, none⟩
  · rw [led] at fault
    cases fault
  · rw [led] at other
    cases other
    rw [none] at found
    cases found

private theorem Absent.followAll_snoc (absent : Absent root names) (name : String) :
    root.followAll [] (names ++ [name]) = .error .noSuchEntry := by
  rw [FileTree.followAll_snoc]
  rcases absent with fault | ⟨place, led, none⟩
  · rw [fault]
    rfl
  · rw [led]
    show root.follow place name = _
    rw [follow, none]

private theorem Absent.of_slashed (absent : Absent root (names ++ [""])) : Absent root names := by
  have stays : Path.staysPut "" = true := by decide
  unfold Absent at absent
  rw [FileTree.followAll_snoc] at absent
  unfold Absent
  cases led : root.followAll [] names with
  | error fault =>
    rw [led] at absent
    rcases absent with same | ⟨place, impossible, -⟩
    · exact Or.inl same
    · cases impossible
  | ok place =>
    rw [led] at absent
    change root.follow place "" = _ ∨ ∃ next, root.follow place "" = _ ∧ _ at absent
    refine Or.inr ⟨place, rfl, ?_⟩
    unfold follow at absent
    cases found : root.get? place with
    | none => rfl
    | some entry =>
      cases entry with
      | file content => simp [found] at absent
      | folder entries => simp [found, stays] at absent

private theorem LeadsToFolder.of_slashed (led : root.followAll [] (names ++ [""]) = .ok place) :
    root.followAll [] names = .ok place := by
  have stays : Path.staysPut "" = true := by decide
  obtain ⟨next, first, last⟩ := followAll_snoc_eq_ok_iff.mp led
  obtain ⟨entries, found⟩ := hasFolder_of_follow last
  have same : next = place := by simpa [follow, found, stays] using last
  rw [first, same]

end FileTree

namespace Spot

def wayTo (root : FileTree) : List String → List (String × FileTree)
  | [] => []
  | name :: above => (name, (root.get? above.reverse).getD .empty) :: wayTo root above

def standing (root : FileTree) (place : Place) : Spot :=
  ⟨wayTo root place.reverse, root.get? place⟩

theorem place_standing (root : FileTree) (place : Place) : (standing root place).place = place := by
  have names : ∀ above, (wayTo root above).map Prod.fst = above := by
    intro above
    induction above with
    | nil => rfl
    | cons name above ih => rw [wayTo, List.map_cons, ih]
  rw [Spot.place, standing, names, List.reverse_reverse]

private theorem up_standing {root : FileTree} {place : Place} (folder : root.HasFolder place) :
    (standing root place).up = standing root place.dropLast := by
  rcases List.eq_nil_or_concat place with rfl | ⟨above, name, rfl⟩
  · rfl
  · rw [List.concat_eq_append] at folder ⊢
    obtain ⟨entries, found⟩ := folder.parent
    rw [List.dropLast_concat]
    simp [Spot.up, standing, wayTo, found]

private theorem step_standing (root : FileTree) (place : Place) (name : String) :
    Spot.step (standing root place) name = (root.follow place name).map (standing root) := by
  unfold Spot.step FileTree.follow
  change (match root.get? place with
    | none => _
    | some (.file _) => _
    | some (.folder entries) => _) = _
  cases found : root.get? place with
  | none => rfl
  | some entry =>
    cases entry with
    | file content => rfl
    | folder entries =>
      simp only
      by_cases stays : Path.staysPut name = true
      · rw [if_pos stays, if_pos stays]
        rfl
      · rw [if_neg stays, if_neg stays]
        by_cases up : (name == "..") = true
        · rw [if_pos up, if_pos up, up_standing ⟨entries, found⟩]
          rfl
        · rw [if_neg up, if_neg up]
          by_cases long : maxNameSize < name.utf8ByteSize
          · rw [if_pos long, if_pos long]
            rfl
          · rw [if_neg long, if_neg long]
            simp [Except.map, standing, wayTo, found, FileTree.get?_child found]

end Spot

namespace FileSystem

def fullNames (fs : FileSystem) (p : Path) : List String :=
  if p.isAbsolute then p.names else fs.current ++ p.names

def place? (fs : FileSystem) (p : Path) : Except SystemFault Place :=
  fs.root.followAll [] (fs.fullNames p)

theorem walk_eq (fs : FileSystem) (p : Path) :
    fs.walk p = (fs.place? p).map (Spot.standing fs.root) := by
  have walked : ∀ (names : List String) (place : Place),
      names.foldlM Spot.step (Spot.standing fs.root place) =
        (fs.root.followAll place names).map (Spot.standing fs.root) := by
    intro names
    induction names with
    | nil => exact fun _ => rfl
    | cons name names ih =>
      intro place
      rw [List.foldlM_cons, Spot.step_standing, FileTree.followAll_cons]
      cases fs.root.follow place name with
      | error fault => rfl
      | ok next => exact ih next
  exact walked (fs.fullNames p) []

theorem find_eq {fs : FileSystem} {p : Path} (checked : checkPath p = .ok ()) :
    fs.find p = (fs.place? p).map (Spot.standing fs.root) := by
  rw [find, checked, ← walk_eq]
  rfl

theorem find_eq_ok_iff {fs : FileSystem} {p : Path} {spot : Spot} :
    fs.find p = .ok spot ↔
      checkPath p = .ok () ∧ ∃ place, fs.place? p = .ok place ∧
        spot = Spot.standing fs.root place := by
  constructor
  · intro found
    cases checked : checkPath p with
    | error fault =>
      rw [find, checked] at found
      cases found
    | ok _ =>
      rw [find_eq checked] at found
      cases led : fs.place? p with
      | error fault =>
        rw [led] at found
        cases found
      | ok place =>
        rw [led] at found
        exact ⟨rfl, place, rfl, (Except.ok.inj found).symm⟩
  · rintro ⟨checked, place, led, rfl⟩
    rw [find_eq checked, led]
    rfl

end FileSystem

namespace Path

theorem ofText_of_slashless {text : String} (slashless : '/' ∉ text.toList) :
    ofText text = ⟨[text]⟩ := by
  have whole : ∀ cs : List Char, '/' ∉ cs → splitAt '/' cs = [cs] := by
    intro cs
    induction cs with
    | nil => exact fun _ => rfl
    | cons c cs ih =>
      intro free
      rw [List.mem_cons, not_or] at free
      rw [splitAt, if_neg (Ne.symm free.1), ih free.2]
  rw [ofText, whole _ slashless, List.map_singleton, String.ofList_toList]

def IsEntryName (name : String) : Prop :=
  staysPut name = false ∧ name ≠ ".."

private theorem IsEntryName.ne_empty {name : String} (proper : IsEntryName name) : name ≠ "" := by
  rintro rfl
  exact absurd proper.1 (by decide)

def entry (p : Path) (name : String) : Path :=
  p.join ⟨[name]⟩

theorem text_snoc_ne_empty {names : List String} {name : String} (nonempty : name ≠ "") :
    (Path.mk (names ++ [name])).text ≠ "" := by
  unfold text
  cases names with
  | nil => simpa using nonempty
  | cons first names =>
    rw [String.intercalate_append_of_ne_nil (by simp) (by simp), String.intercalate_singleton]
    simp [nonempty]

theorem names_entry (p : Path) (name : String) :
    ∃ stem, (p.entry name).names = stem ++ [name] ∧ (p.names = stem ∨ p.names = stem ++ [""]) := by
  have relative : (Path.mk [name]).isAbsolute = false := by
    unfold isAbsolute
    split <;> simp_all
  by_cases slashed : p.isSlashed = true
  · refine ⟨p.names.dropLast, ?_, Or.inr ?_⟩
    · rw [entry, join, relative, if_neg Bool.false_ne_true, if_pos slashed]
    · exact (List.dropLast_append_getLast? "" (by simpa [isSlashed] using slashed)).symm
  · refine ⟨p.names, ?_, Or.inl rfl⟩
    rw [entry, join, relative, if_neg Bool.false_ne_true, if_neg slashed]

theorem isAbsolute_iff (p : Path) :
    p.isAbsolute = true ↔ ∃ second rest, p.names = "" :: second :: rest := by
  unfold isAbsolute
  split
  · rename_i second rest same
    exact ⟨fun _ => ⟨second, rest, same⟩, fun _ => rfl⟩
  · rename_i other
    constructor
    · intro impossible
      cases impossible
    · rintro ⟨second, rest, same⟩
      exact absurd same (other second rest)

private theorem isAbsolute_entry {p : Path} (named : p.text ≠ "") (name : String) :
    (p.entry name).isAbsolute = p.isAbsolute := by
  obtain ⟨stem, entry, folder⟩ := p.names_entry name
  rw [Bool.eq_iff_iff, isAbsolute_iff, isAbsolute_iff, entry]
  unfold text at named
  cases stem with
  | nil => rcases folder with none | none <;> simp [none] at named
  | cons first rest =>
    rcases folder with same | same
    · rw [same] at named ⊢
      cases rest with
      | nil =>
        have nonempty : first ≠ "" := by simpa using named
        simp [nonempty]
      | cons second rest => simp
    · rw [same]
      cases rest <;> simp

end Path

namespace FileSystem

open ProfileShell.Path (IsEntryName)

variable {fs : FileSystem} {p : Path} {name : String} {place : Place}

/-- The names to an entry of a folder: those to the folder, but for an empty last one, and then the
name of the entry. -/
theorem fullNames_entry (fs : FileSystem) (named : p.text ≠ "") (name : String) :
    ∃ stem, fs.fullNames (p.entry name) = stem ++ [name] ∧
      (fs.fullNames p = stem ∨ fs.fullNames p = stem ++ [""]) := by
  obtain ⟨stem, entry, folder⟩ := p.names_entry name
  unfold fullNames
  rw [Path.isAbsolute_entry named, entry]
  by_cases absolute : p.isAbsolute = true
  · rw [if_pos absolute, if_pos absolute]
    exact ⟨stem, rfl, folder⟩
  · rw [if_neg absolute, if_neg absolute, ← List.append_assoc]
    refine ⟨fs.current ++ stem, rfl, ?_⟩
    rcases folder with same | same <;> rw [same]
    · exact Or.inl rfl
    · exact Or.inr (List.append_assoc ..).symm

/-- A path and a name are short enough, in bytes, for the entry to be reached. -/
def Fits (p : Path) (name : String) : Prop :=
  (p.entry name).text.utf8ByteSize ≤ maxPathSize ∧ name.utf8ByteSize ≤ Spot.maxNameSize

instance (p : Path) (name : String) : Decidable (Fits p name) :=
  inferInstanceAs (Decidable (_ ∧ _))

private theorem checkPath_entry (checked : checkPath p = .ok ()) (proper : name ≠ "")
    (nulless : '\x00' ∉ name.toList) :
    checkPath (p.entry name) =
      if maxPathSize < (p.entry name).text.utf8ByteSize then .error .nameTooLong else .ok () := by
  obtain ⟨stem, entry, folder⟩ := p.names_entry name
  have clean : ¬(p.names.any fun name => name.toList.contains '\x00') = true := by
    intro dirty
    rw [checkPath, if_pos dirty] at checked
    cases checked
  have cleanEntry : ¬((p.entry name).names.any fun name => name.toList.contains '\x00') = true := by
    rw [entry]
    rcases folder with same | same <;> rw [same] at clean <;>
      simp_all
  have nonempty : (p.entry name).text ≠ "" := by
    have same : p.entry name = ⟨stem ++ [name]⟩ := by rw [← entry]
    rw [same]
    exact Path.text_snoc_ne_empty proper
  rw [checkPath, if_neg cleanEntry, if_neg (by simpa using nonempty)]

private theorem find_entry_eq (checked : checkPath p = .ok ()) (proper : name ≠ "")
    (nulless : '\x00' ∉ name.toList) (fs : FileSystem) :
    fs.find (p.entry name) =
      if maxPathSize < (p.entry name).text.utf8ByteSize then .error .nameTooLong
      else (fs.place? (p.entry name)).map (Spot.standing fs.root) := by
  rw [find, checkPath_entry checked proper nulless, ← walk_eq]
  split <;> rfl

private theorem place?_entry (named : p.text ≠ "") (led : fs.place? p = .ok place)
    (folder : fs.root.HasFolder place) (proper : IsEntryName name) :
    fs.place? (p.entry name) =
      if Spot.maxNameSize < name.utf8ByteSize then .error .nameTooLong
      else .ok (place ++ [name]) := by
  obtain ⟨stem, entry, whole⟩ := fs.fullNames_entry named name
  have reached : fs.root.followAll [] stem = .ok place := by
    unfold place? at led
    rcases whole with same | same <;> rw [same] at led
    · exact led
    · exact FileTree.LeadsToFolder.of_slashed led
  obtain ⟨entries, found⟩ := folder
  rw [place?, entry, FileTree.followAll_snoc, reached]
  show fs.root.follow place name = _
  simp [FileTree.follow, found, proper.1, proper.2]

private theorem place?_entry_of_absent (named : p.text ≠ "")
    (absent : fs.root.Absent (fs.fullNames p)) (name : String) :
    fs.place? (p.entry name) = .error .noSuchEntry := by
  obtain ⟨stem, entry, whole⟩ := fs.fullNames_entry named name
  have stemAbsent : fs.root.Absent stem := by
    rcases whole with same | same <;> rw [same] at absent
    · exact absent
    · exact absent.of_slashed
  rw [place?, entry, stemAbsent.followAll_snoc]

theorem text_ne_empty_of_checked (checked : checkPath p = .ok ()) : p.text ≠ "" := by
  intro empty
  unfold checkPath at checked
  split at checked
  · cases checked
  · rw [if_pos (by simp [empty])] at checked
    cases checked

structure Shows (fs : FileSystem) (p : Path) (place : Place)
    (entries : List (String × FileTree)) : Prop where
  checked : checkPath p = .ok ()
  led : fs.place? p = .ok place
  found : fs.root.get? place = some (.folder entries)

structure Misses (fs : FileSystem) (p : Path) : Prop where
  checked : checkPath p = .ok ()
  absent : fs.root.Absent (fs.fullNames p)

private theorem Misses.find_entry? (misses : fs.Misses p) :
    (fs.find p = .error .noSuchEntry) ∨ ∃ spot, fs.find p = .ok spot ∧ spot.entry = none := by
  rw [find_eq misses.checked]
  rcases misses.absent with fault | ⟨place, led, none⟩
  · exact Or.inl (by rw [place?, fault]; rfl)
  · exact Or.inr ⟨Spot.standing fs.root place, by rw [place?, led]; rfl, none⟩

section Entries

variable {entries : List (String × FileTree)}

theorem Shows.listFiles (shows : fs.Shows p place entries) :
    fs.listFiles p = .ok (FileTree.folder entries).fileNames := by
  unfold FileSystem.listFiles
  rw [find_eq shows.checked, shows.led]
  simp [Spot.standing, shows.found, Except.map, bind, Except.bind]

theorem Misses.listFiles (misses : fs.Misses p) : fs.listFiles p = .error .noSuchEntry := by
  unfold FileSystem.listFiles
  rcases misses.find_entry? with fault | ⟨spot, found, none⟩
  · rw [fault]
    rfl
  · rw [found]
    simp [none, bind, Except.bind]

variable (proper : IsEntryName name) (nulless : '\x00' ∉ name.toList)
include proper nulless

theorem Shows.find_entry (shows : fs.Shows p place entries) :
    (Fits p name → ∃ spot, fs.find (p.entry name) = .ok spot ∧ spot.place = place ++ [name] ∧
      spot.entry = entries.lookup name) ∧
      (¬Fits p name → fs.find (p.entry name) = .error .nameTooLong) := by
  have named := text_ne_empty_of_checked shows.checked
  rw [find_entry_eq shows.checked proper.ne_empty nulless,
    place?_entry named shows.led ⟨entries, shows.found⟩ proper]
  constructor
  · rintro ⟨shortPath, shortName⟩
    refine ⟨Spot.standing fs.root (place ++ [name]), ?_, Spot.place_standing .., ?_⟩
    · rw [if_neg (by omega), if_neg (by omega)]
      rfl
    · exact FileTree.get?_child shows.found name
  · intro unfit
    by_cases shortPath : maxPathSize < (p.entry name).text.utf8ByteSize
    · rw [if_pos shortPath]
    · have longName : Spot.maxNameSize < name.utf8ByteSize := by
        by_contra shortName
        exact unfit ⟨by omega, by omega⟩
      rw [if_neg shortPath, if_pos longName]
      rfl

theorem Misses.find_below (misses : fs.Misses p) :
    (Fits p name → fs.find (p.entry name) = .error .noSuchEntry) ∧
      (fs.find (p.entry name) = .error .noSuchEntry ∨
        fs.find (p.entry name) = .error .nameTooLong) := by
  have named := text_ne_empty_of_checked misses.checked
  rw [find_entry_eq misses.checked proper.ne_empty nulless,
    place?_entry_of_absent named misses.absent]
  constructor
  · rintro ⟨shortPath, -⟩
    rw [if_neg (by omega)]
    rfl
  · split
    · exact Or.inr rfl
    · exact Or.inl rfl

omit nulless in
theorem findForFile_entry (fs : FileSystem) (p : Path) :
    fs.findForFile (p.entry name) = fs.find (p.entry name) := by
  obtain ⟨stem, entry, -⟩ := p.names_entry name
  have unslashed : (p.entry name).isSlashed = false := by
    simp [Path.isSlashed, entry, proper.ne_empty]
  unfold findForFile find
  rw [unslashed]
  rfl

theorem Shows.writeFile_entry (shows : fs.Shows p place entries)
    (free : ∀ others, entries.lookup name ≠ some (.folder others)) (content : ByteArray) :
    (Fits p name → ∃ after, fs.writeFile (p.entry name) content = .ok after ∧
      after.Shows p place (FileTree.putEntry name (.file content) entries)) ∧
      (¬Fits p name → fs.writeFile (p.entry name) content = .error .nameTooLong) := by
  obtain ⟨found, lost⟩ := shows.find_entry proper nulless
  unfold writeFile
  rw [findForFile_entry proper]
  constructor
  · intro fits
    obtain ⟨spot, at_entry, there, holds⟩ := found fits
    refine ⟨{ fs with root := fs.root.put (place ++ [name]) (.file content) }, ?_, ?_⟩
    · rw [at_entry]
      simp only [bind, Except.bind, holds, there]
    · have more : FileTree.Extends fs.root (fs.root.put (place ++ [name]) (.file content)) := by
        refine FileTree.extends_put ⟨entries, shows.found⟩ ?_ _
        rintro ⟨others, folder⟩
        rw [FileTree.get?_child shows.found] at folder
        exact free others folder
      exact ⟨shows.checked, FileTree.followAll_of_extends more shows.led,
        FileTree.get?_put shows.found name _⟩
  · intro unfit
    rw [lost unfit]
    rfl

theorem Shows.removeFile_entry (shows : fs.Shows p place entries) {content : ByteArray}
    (file : entries.lookup name = some (.file content)) (fits : Fits p name) :
    ∃ after, fs.removeFile (p.entry name) = .ok after ∧
      after.Shows p place (entries.filter fun e => e.1 != name) := by
  obtain ⟨spot, at_entry, there, holds⟩ := (shows.find_entry proper nulless).1 fits
  refine ⟨{ fs with root := fs.root.erase (place ++ [name]) }, ?_, ?_⟩
  · unfold removeFile
    rw [at_entry]
    simp only [bind, Except.bind, holds, there, file]
  · have more : FileTree.Extends fs.root (fs.root.erase (place ++ [name])) := by
      refine FileTree.extends_erase ⟨entries, shows.found⟩ ?_
      rintro ⟨others, folder⟩
      rw [FileTree.get?_child shows.found, file] at folder
      cases folder
    exact ⟨shows.checked, FileTree.followAll_of_extends more shows.led,
      FileTree.get?_erase shows.found name⟩

end Entries

end FileSystem

end ProfileShell
