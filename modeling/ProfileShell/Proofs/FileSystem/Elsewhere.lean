import ProfileShell.Proofs.FileSystem.Entry
import ProfileShell.Proofs.FileSystem.Writing

/-!
What a change of one file leaves alone.

To write or to remove a file changes its own place and no other: every other file keeps its content,
and every folder stays a folder. So the other files of the same folder are read as before.
-/

set_option autoImplicit false
set_option relaxedAutoImplicit false

namespace ProfileShell

namespace FileTree

/-- What a place shows from outside. A folder shows only that it is one. -/
inductive Glimpse
  | nothing
  | file (content : ByteArray)
  | folder

def glimpse (root : FileTree) (place : Place) : Glimpse :=
  match root.get? place with
  | none => .nothing
  | some (.file content) => .file content
  | some (.folder _) => .folder

def SameBut (own : Place) (t u : FileTree) : Prop :=
  ∀ place, place ≠ own → u.glimpse place = t.glimpse place

variable {t u : FileTree} {place : Place} {name : String}
  {entries others : List (String × FileTree)}

private theorem glimpse_cons (entries : List (String × FileTree)) (name : String) (place : Place) :
    (folder entries).glimpse (name :: place) =
      ((entries.lookup name).map fun t => t.glimpse place).getD .nothing := by
  simp only [glimpse, get?]
  cases entries.lookup name <;> rfl

private theorem glimpse_below (single : ∀ inner, entries.lookup name ≠ some (.folder inner))
    (nonempty : place ≠ []) : (folder entries).glimpse (name :: place) = .nothing := by
  obtain ⟨first, rest, rfl⟩ := List.exists_cons_of_ne_nil nonempty
  rw [glimpse_cons]
  cases found : entries.lookup name with
  | none => rfl
  | some t =>
    cases t with
    | file content => rfl
    | folder inner => exact absurd found (single inner)

private theorem sameBut_child
    (kept : ∀ other, other ≠ name → others.lookup other = entries.lookup other)
    (before : ∀ inner, entries.lookup name ≠ some (.folder inner))
    (after : ∀ inner, others.lookup name ≠ some (.folder inner)) :
    SameBut [name] (folder entries) (folder others) := by
  intro place elsewhere
  cases place with
  | nil => rfl
  | cons first rest =>
    by_cases here : first = name
    · have nonempty : rest ≠ [] := by
        intro none
        exact elsewhere (by rw [here, none])
      rw [here, glimpse_below after nonempty, glimpse_below before nonempty]
    · rw [glimpse_cons, glimpse_cons, kept first here]

private theorem SameBut.inside (same : SameBut place t u) (inner : entries.lookup name = some t) :
    SameBut (name :: place) (folder entries) (folder (putEntry name u entries)) := by
  intro other elsewhere
  cases other with
  | nil => rfl
  | cons first rest =>
    rw [glimpse_cons, glimpse_cons, lookup_putEntry]
    by_cases here : first = name
    · have apart : rest ≠ place := by
        intro equal
        exact elsewhere (by rw [here, equal])
      rw [if_pos here, here, inner]
      exact same rest apart
    · rw [if_neg here]

private theorem sameBut_put_self {new : FileTree} {own : Place} (found : t.get? place = some u)
    (same : SameBut own u new) : SameBut (place ++ own) t (t.put place new) := by
  induction place generalizing t with
  | nil =>
    cases found
    simpa [put] using same
  | cons first place ih =>
    obtain ⟨others, v, rfl, inner, below⟩ := get?_cons_eq_some_iff.mp found
    rw [List.cons_append, put, inner, Option.getD_some]
    exact (ih below).inside inner

private theorem not_folder_of_single (found : t.get? place = some (.folder entries))
    (single : ¬t.HasFolder (place ++ [name])) (inner : List (String × FileTree)) :
    entries.lookup name ≠ some (.folder inner) := by
  intro entry
  exact single ⟨inner, (get?_child found name).trans entry⟩

private theorem sameBut_put (parent : t.HasFolder place) (single : ¬t.HasFolder (place ++ [name]))
    (content : ByteArray) :
    SameBut (place ++ [name]) t (t.put (place ++ [name]) (.file content)) := by
  obtain ⟨entries, found⟩ := parent
  have kept : ∀ other, other ≠ name →
      (putEntry name (.file content) entries).lookup other = entries.lookup other := by
    intro other apart
    rw [lookup_putEntry, if_neg apart]
  have after : ∀ inner,
      (putEntry name (.file content) entries).lookup name ≠ some (.folder inner) := by
    intro inner
    rw [lookup_putEntry, if_pos rfl]
    simp
  rw [put_child found]
  exact sameBut_put_self found (sameBut_child kept (not_folder_of_single found single) after)

private theorem sameBut_erase (parent : t.HasFolder place)
    (single : ¬t.HasFolder (place ++ [name])) :
    SameBut (place ++ [name]) t (t.erase (place ++ [name])) := by
  obtain ⟨entries, found⟩ := parent
  have kept : ∀ other, other ≠ name →
      (entries.filter fun e => e.1 != name).lookup other = entries.lookup other := by
    intro other apart
    rw [lookup_filter, if_neg apart]
  have after : ∀ inner,
      (entries.filter fun e => e.1 != name).lookup name ≠ some (.folder inner) := by
    intro inner
    rw [lookup_filter, if_pos rfl]
    simp
  rw [erase_child found]
  exact sameBut_put_self found (sameBut_child kept (not_folder_of_single found single) after)

private theorem SameBut.follow_eq {own : Place} {old new : ByteArray} (same : SameBut own t u)
    (before : t.get? own = some (.file old)) (after : u.get? own = some (.file new)) (place : Place)
    (name : String) : u.follow place name = t.follow place name := by
  by_cases here : place = own
  · rw [here, follow, follow, before, after]
  · have shown := same place here
    simp only [glimpse] at shown
    rw [follow, follow]
    split at shown <;> split at shown <;> simp_all

private theorem SameBut.followAll_eq {own : Place} {old new : ByteArray} (same : SameBut own t u)
    (before : t.get? own = some (.file old)) (after : u.get? own = some (.file new)) (place : Place)
    (names : List String) : u.followAll place names = t.followAll place names := by
  induction names generalizing place with
  | nil => rfl
  | cons name names ih =>
    rw [followAll_cons, followAll_cons, same.follow_eq before after]
    cases t.follow place name with
    | error fault => rfl
    | ok next => exact ih next

end FileTree

namespace FileSystem

/-- Nothing has changed but what the path led to. -/
structure SameBut (p : Path) (fs after : FileSystem) : Prop where
  current : after.current = fs.current
  elsewhere : ∀ place, fs.place? p ≠ .ok place →
    after.root.glimpse place = fs.root.glimpse place

variable {fs after : FileSystem} {p other : Path} {content : ByteArray}

theorem SameBut.refl (p : Path) (fs : FileSystem) : SameBut p fs fs :=
  ⟨rfl, fun _ _ => rfl⟩

private theorem SameBut.root {own : Place} (same : SameBut p fs after)
    (led : fs.place? p = .ok own) : FileTree.SameBut own fs.root after.root := by
  intro place apart
  apply same.elsewhere
  rw [led]
  intro equal
  exact apart (Except.ok.inj equal).symm

private theorem sameBut_of_root {own : Place} (led : fs.place? p = .ok own) {root : FileTree}
    (same : FileTree.SameBut own fs.root root) : SameBut p fs { fs with root } := by
  refine ⟨rfl, ?_⟩
  intro place elsewhere
  apply same
  intro equal
  exact elsewhere (by rw [equal, led])

theorem sameBut_of_writeFile (written : fs.writeFile p content = .ok after) :
    SameBut p fs after := by
  obtain ⟨place, name, -, led, parent, single, rfl⟩ := exists_put_of_writeFile written
  exact sameBut_of_root led (FileTree.sameBut_put parent single content)

theorem sameBut_of_removeFile (removed : fs.removeFile p = .ok after) : SameBut p fs after := by
  obtain ⟨place, name, led, parent, single, rfl⟩ := exists_erase_of_removeFile removed
  exact sameBut_of_root led (FileTree.sameBut_erase parent single)

private theorem readText_congr (places : after.place? p = fs.place? p)
    (shown : ∀ place, fs.place? p = .ok place → after.root.glimpse place = fs.root.glimpse place) :
    after.readText p = fs.readText p := by
  cases checked : checkPath p with
  | error fault =>
    have refused : ∀ files : FileSystem, files.find p = .error fault := by
      intro files
      rw [find, checked]
      rfl
    rw [readText, readText, refused after, refused fs]
  | ok _ =>
    rw [readText, readText, find_eq checked, find_eq checked, places]
    cases led : fs.place? p with
    | error fault => rfl
    | ok place =>
      have same := shown place led
      simp only [FileTree.glimpse] at same
      simp only [Except.map, bind, Except.bind, Spot.standing]
      split at same <;> split at same <;> simp_all

/-- When a file gets a new content, every path that leads elsewhere reads as before. -/
theorem readText_of_writeFile_elsewhere (file : fs.isFile p = true)
    (written : fs.writeFile p content = .ok after) (apart : fs.place? other ≠ fs.place? p) :
    after.readText other = fs.readText other := by
  have same := sameBut_of_writeFile written
  obtain ⟨own, checked, led, -, new⟩ := exists_place_of_writeFile written
  obtain ⟨spot, content, found, old⟩ := exists_spot_of_isFile file
  rw [find_eq checked, led] at found
  cases found
  apply readText_congr
  · rw [place?, fullNames_of_current same.current]
    exact (same.root led).followAll_eq old new [] (fs.fullNames other)
  · intro place arrived
    apply same.elsewhere
    intro here
    exact apart (arrived.trans here.symm)

theorem place?_entry_ne {name second : String} (proper : Path.IsEntryName name)
    (properToo : Path.IsEntryName second) (different : second ≠ name) {place : Place}
    (led : fs.place? (p.entry name) = .ok place) :
    fs.place? (p.entry second) ≠ fs.place? (p.entry name) := by
  intro same
  obtain ⟨above, rfl, -⟩ := exists_folder_of_place?_entry proper led
  obtain ⟨aboveToo, equal, -⟩ := exists_folder_of_place?_entry properToo (same.trans led)
  have names : [name] = [second] := (List.append_inj' equal rfl).2
  exact different (List.singleton_inj.mp names).symm

end FileSystem

end ProfileShell
