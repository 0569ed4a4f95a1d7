import Mathlib.Data.List.Induction
import Mathlib.Data.List.TakeWhile
import ProfileShell.Proofs.FileSystem

/-!
What comes of creating a folder and the folders above it.

If no fault is answered, the folder was there and nothing has changed, or it was not there and is
now an empty folder. Two dots could lead from a folder that is created to one that was there all
along, so they are admitted only after names that lead to a folder.
-/

set_option autoImplicit false
set_option relaxedAutoImplicit false

namespace ProfileShell

namespace Path

private theorem isAbsolute_of_name {p : Path} {name : String} (member : name ∈ p.names)
    (nonempty : name ≠ "") : p.isAbsolute = (p.names.head? == some "") := by
  obtain ⟨names⟩ := p
  rw [Bool.eq_iff_iff, isAbsolute_iff]
  cases names with
  | nil => cases member
  | cons first rest =>
    cases rest with
    | nil =>
      have single : name = first := by simpa using member
      simp [← single, nonempty]
    | cons second rest => simp

private theorem isAbsolute_of_prefix {p q : Path} {name : String} (begins : q.names <+: p.names)
    (member : name ∈ q.names) (nonempty : name ≠ "") : q.isAbsolute = p.isAbsolute := by
  have first : q.names.head? = p.names.head? := by
    obtain ⟨rest, whole⟩ := begins
    rw [← whole, List.head?_append]
    cases names : q.names with
    | nil =>
      rw [names] at member
      cases member
    | cons head tail => rfl
  rw [isAbsolute_of_name member nonempty, isAbsolute_of_name (begins.subset member) nonempty, first]

private theorem split_of_dropWhile {test : String → Bool} {names rest : List String} {name : String}
    (dropped : names.dropWhile test = name :: rest) :
    test name = false ∧ ∃ front, (∀ n ∈ front, test n = true) ∧ names = front ++ name :: rest := by
  refine ⟨?_, names.takeWhile test, fun n member => List.mem_takeWhile_imp member, ?_⟩
  · have fails := List.head?_dropWhile_not test names
    rw [dropped] at fails
    exact fails
  · rw [← dropped, List.takeWhile_append_dropWhile]

private theorem unslashed_cases (p : Path) :
    p.unslashed = p ∨ ∃ front name slashes, name ≠ "" ∧ (∀ slash ∈ slashes, slash = "") ∧
      p.unslashed.names = front ++ [name] ∧ p.names = p.unslashed.names ++ slashes := by
  unfold unslashed
  cases dropped : p.names.reverse.dropWhile String.isEmpty with
  | nil => exact Or.inl rfl
  | cons name rest =>
    obtain ⟨real, slashes, empty, same⟩ := split_of_dropWhile dropped
    refine Or.inr ⟨rest.reverse, name, slashes.reverse, by simpa using real, ?_, by simp, ?_⟩
    · intro slash member
      exact String.isEmpty_iff.mp (empty slash (List.mem_reverse.mp member))
    · have names := congrArg List.reverse same
      rw [List.reverse_reverse] at names
      simp [names]

end Path

namespace FileSystem

variable {fs after : FileSystem} {p : Path} {names rest : List String} {place : Place}

def start (fs : FileSystem) (p : Path) : List String :=
  if p.isAbsolute then [] else fs.current

theorem fullNames_eq (fs : FileSystem) (p : Path) : fs.fullNames p = fs.start p ++ p.names := by
  unfold fullNames start
  split <;> rfl

theorem start_of_prefix {p q : Path} {name : String} (fs : FileSystem)
    (begins : q.names <+: p.names) (member : name ∈ q.names) (nonempty : name ≠ "") :
    fs.start q = fs.start p := by
  unfold start
  rw [Path.isAbsolute_of_prefix begins member nonempty]

private theorem fullNames_of_prefix {name : String} (fs : FileSystem)
    (begins : (name :: rest).reverse <+: p.names) (real : Path.staysPut name = false) :
    fs.fullNames ⟨(name :: rest).reverse⟩ = fs.start p ++ (name :: rest).reverse := by
  have nonempty : name ≠ "" := by
    rintro rfl
    exact absurd real (by decide)
  have same : fs.start ⟨(name :: rest).reverse⟩ = fs.start p :=
    fs.start_of_prefix begins (List.mem_reverse.mpr List.mem_cons_self) nonempty
  rw [fullNames_eq, same]

private theorem fullNames_unslashed (fs : FileSystem) (p : Path) :
    ∃ slashes, (∀ slash ∈ slashes, Path.staysPut slash = true) ∧
      fs.fullNames p = fs.fullNames p.unslashed ++ slashes := by
  rcases p.unslashed_cases with same | ⟨front, name, slashes, real, empty, ends, whole⟩
  · exact ⟨[], by simp, by rw [same, List.append_nil]⟩
  · refine ⟨slashes, fun slash member => by simp [Path.staysPut, empty slash member], ?_⟩
    have begins : p.unslashed.names <+: p.names := ⟨slashes, whole.symm⟩
    have same := fs.start_of_prefix begins (by rw [ends]; simp) real
    rw [fullNames_eq, fullNames_eq, same, List.append_assoc, ← whole]

end FileSystem

namespace FileTree

variable {root : FileTree} {place : Place} {names stays : List String}

private theorem followAll_stays (still : ∀ name ∈ stays, Path.staysPut name = true)
    (folder : root.HasFolder place) : root.followAll place stays = .ok place := by
  induction stays with
  | nil => rfl
  | cons name stays ih =>
    obtain ⟨entries, found⟩ := folder
    rw [followAll_cons]
    simp only [follow, found, still name List.mem_cons_self, if_true]
    exact ih fun n member => still n (List.mem_cons_of_mem name member)

private theorem eq_of_followAll_stays {reached : Place}
    (still : ∀ name ∈ stays, Path.staysPut name = true)
    (led : root.followAll place stays = .ok reached) : reached = place := by
  induction stays generalizing place with
  | nil => exact (Except.ok.inj led).symm
  | cons name stays ih =>
    obtain ⟨next, first, rest⟩ := followAll_cons_eq_ok_iff.mp led
    have same : next = place := by
      obtain ⟨entries, found⟩ := hasFolder_of_follow first
      rw [follow, found] at first
      simpa [still name List.mem_cons_self, eq_comm] using first
    exact (ih (fun n member => still n (List.mem_cons_of_mem name member)) rest).trans same

private theorem leadsToFolder_append_iff (still : ∀ name ∈ stays, Path.staysPut name = true) :
    root.LeadsToFolder (names ++ stays) ↔ root.LeadsToFolder names := by
  constructor
  · intro leads
    obtain ⟨place, led, folder⟩ := leads
    obtain ⟨next, first, rest⟩ := followAll_append_eq_ok_iff.mp led
    rw [eq_of_followAll_stays still rest] at folder
    exact ⟨next, first, folder⟩
  · intro leads
    obtain ⟨place, led, folder⟩ := leads
    have stayed := followAll_stays still folder
    exact ⟨place, followAll_append_eq_ok_iff.mpr ⟨place, led, stayed⟩, folder⟩

private theorem HasFolder.dropLast (folder : root.HasFolder place) :
    root.HasFolder place.dropLast := by
  rcases List.eq_nil_or_concat place with rfl | ⟨above, last, rfl⟩
  · exact folder
  · rw [List.concat_eq_append] at folder ⊢
    rw [List.dropLast_concat]
    exact folder.parent

private theorem HasFolder.root_or_below (folder : root.HasFolder place) :
    place = [] ∨ ∃ above name, place = above ++ [name] ∧ root.HasFolder above := by
  rcases List.eq_nil_or_concat place with rfl | ⟨above, last, rfl⟩
  · exact Or.inl rfl
  · rw [List.concat_eq_append] at folder ⊢
    exact Or.inr ⟨above, last, rfl, folder.parent⟩

theorem parent_of_followAll (led : root.followAll [] names = .ok place) :
    place = [] ∨ ∃ above name, place = above ++ [name] ∧ root.HasFolder above := by
  rcases List.eq_nil_or_concat names with rfl | ⟨before, name, rfl⟩
  · exact Or.inl (Except.ok.inj led).symm
  · rw [List.concat_eq_append] at led
    obtain ⟨next, -, last⟩ := followAll_snoc_eq_ok_iff.mp led
    obtain ⟨entries, found⟩ := hasFolder_of_follow last
    have folder : root.HasFolder next := ⟨entries, found⟩
    rw [follow, found] at last
    simp only at last
    -- The last name stays, goes up, is refused or is one of the folder's own.
    split at last
    · cases last
      exact folder.root_or_below
    · split at last
      · cases last
        exact folder.dropLast.root_or_below
      · split at last
        · cases last
        · cases last
          exact Or.inr ⟨next, name, rfl, folder⟩

end FileTree

namespace FileSystem

open FileTree (Extends)

variable {fs middle after : FileSystem} {p : Path} {names rest : List String} {place : Place}

theorem fullNames_of_current (same : after.current = fs.current) (p : Path) :
    after.fullNames p = fs.fullNames p := by
  unfold fullNames
  rw [same]

private theorem leadsToFolder_of_isFolder (folder : fs.isFolder p = true) :
    fs.root.LeadsToFolder (fs.fullNames p) := by
  rw [isFolder, entry?] at folder
  cases found : fs.find p with
  | error fault => simp [found] at folder
  | ok spot =>
    obtain ⟨-, place, led, rfl⟩ := find_eq_ok_iff.mp found
    simp only [found] at folder
    refine ⟨place, led, ?_⟩
    cases there : fs.root.get? place with
    | none => simp [Spot.standing, there] at folder
    | some t =>
      cases t with
      | file content => simp [Spot.standing, there] at folder
      | folder entries => exact ⟨entries, there⟩

/-- A folder was made: the names led to no folder and now lead to an empty one, and all other
folders are still there. -/
structure Made (fs after : FileSystem) (names : List String) : Prop where
  current : after.current = fs.current
  more : Extends fs.root after.root
  missing : ¬fs.root.LeadsToFolder names
  empty : ∃ place, after.root.followAll [] names = .ok place ∧
    after.root.get? place = some (.folder [])

private theorem Made.stays {stays : List String} (made : Made fs after names)
    (still : ∀ name ∈ stays, Path.staysPut name = true) : Made fs after (names ++ stays) where
  current := made.current
  more := made.more
  missing := (FileTree.leadsToFolder_append_iff still).not.mpr made.missing
  empty := by
    obtain ⟨place, led, found⟩ := made.empty
    refine ⟨place, ?_, found⟩
    rw [FileTree.followAll_append, led]
    exact FileTree.followAll_stays still ⟨[], found⟩

private theorem Made.of_later (same : middle.current = fs.current)
    (more : Extends fs.root middle.root)
    (made : Made middle after names) : Made fs after names where
  current := made.current.trans same
  more := more.trans made.more
  missing := by
    rintro ⟨place, led, folder⟩
    exact made.missing ⟨place, FileTree.followAll_of_extends more led, more place folder⟩
  empty := made.empty

private theorem exists_of_createFolder (created : fs.createFolder p = .ok after) :
    ∃ place, fs.place? p.unslashed = .ok place ∧ fs.root.get? place = none ∧
      after = { fs with root := fs.root.put place .empty } := by
  unfold createFolder at created
  cases checked : checkPath p with
  | error fault =>
    rw [checked] at created
    cases created
  | ok _ =>
    rw [checked, walk_eq] at created
    cases led : fs.place? p.unslashed with
    | error fault =>
      rw [led] at created
      cases created
    | ok place =>
      rw [led] at created
      cases found : fs.root.get? place with
      | some entry => simp [Spot.standing, found, bind, Except.bind, Except.map] at created
      | none =>
        simp only [Except.map, bind, Except.bind, Spot.place_standing] at created
        simp only [Spot.standing, found] at created
        cases created
        exact ⟨place, rfl, found, rfl⟩

private theorem made_of_createFolder (created : fs.createFolder p = .ok after) :
    Made fs after (fs.fullNames p) := by
  obtain ⟨slashes, still, whole⟩ := fs.fullNames_unslashed p
  obtain ⟨place, led, nothing, rfl⟩ := exists_of_createFolder created
  rw [whole]
  refine Made.stays ?_ still
  have free : ¬fs.root.HasFolder place := by
    rintro ⟨entries, folder⟩
    rw [nothing] at folder
    cases folder
  have missing : ¬fs.root.LeadsToFolder (fs.fullNames p.unslashed) := by
    rintro ⟨other, same, folder⟩
    rw [show fs.root.followAll [] _ = _ from led] at same
    cases same
    exact free folder
  rcases FileTree.parent_of_followAll led with rfl | ⟨above, name, rfl, parent⟩
  · simp [FileTree.get?] at nothing
  · obtain ⟨entries, siblings⟩ := parent
    have more := FileTree.extends_put ⟨entries, siblings⟩ free FileTree.empty
    refine ⟨rfl, more, missing, above ++ [name], FileTree.followAll_of_extends more led, ?_⟩
    rw [FileTree.get?_child (FileTree.get?_put siblings name FileTree.empty),
      FileTree.lookup_putEntry, if_pos rfl]
    rfl

private theorem eq_of_unlessFolder {fault : SystemFault}
    (unharmed : fs.unlessFolder p fault = (after, .ok ())) :
    after = fs ∧ fs.root.LeadsToFolder (fs.fullNames p) := by
  unfold unlessFolder at unharmed
  split at unharmed
  · rename_i folder
    exact ⟨(Prod.mk.inj unharmed).1.symm, leadsToFolder_of_isFolder folder⟩
  · cases unharmed

private theorem createUpward_cons {above : List Path}
    (parents : ∀ middle, fs.createUpward above = (middle, .ok ()) →
      middle = fs ∨ middle.current = fs.current ∧ Extends fs.root middle.root ∧
        ¬middle.root.LeadsToFolder (fs.fullNames p))
    (created : fs.createUpward (p :: above) = (after, .ok ())) :
    (after = fs ∧ fs.root.LeadsToFolder (fs.fullNames p)) ∨ Made fs after (fs.fullNames p) := by
  unfold createUpward at created
  cases first : fs.createFolder p with
  | ok made =>
    rw [first] at created
    cases created
    exact Or.inr (made_of_createFolder first)
  | error fault =>
    rw [first] at created
    by_cases missing : fault = .noSuchEntry
    · subst missing
      simp only at created
      rcases upward : fs.createUpward above with ⟨middle, outcome⟩
      rw [upward] at created
      cases outcome with
      | error fault => cases created
      | ok _ =>
        simp only at created
        rcases parents middle upward with rfl | ⟨current, more, none⟩
        · -- Nothing was created above, so the second attempt is refused as the first one was.
          rw [first] at created
          exact Or.inl (eq_of_unlessFolder created)
        · have same := fullNames_of_current current p
          cases second : middle.createFolder p with
          | ok made =>
            rw [second] at created
            cases created
            have made := made_of_createFolder second
            rw [same] at made
            exact Or.inr (made.of_later current more)
          | error fault =>
            rw [second] at created
            obtain ⟨-, folder⟩ := eq_of_unlessFolder created
            rw [same] at folder
            exact absurd folder none
    · have refused : fs.unlessFolder p fault = (after, .ok ()) := by
        cases fault <;> first | exact absurd rfl missing | exact created
      exact Or.inl (eq_of_unlessFolder refused)

private theorem Made.not_leadsToFolder_below (made : Made fs after names) {name : String}
    {more : List String} (real : Path.staysPut name = false)
    (grounded : name = ".." → fs.root.LeadsToFolder names) :
    ¬after.root.LeadsToFolder (names ++ name :: more) := by
  obtain ⟨place, led, found⟩ := made.empty
  have down : name ≠ ".." := fun up => made.missing (grounded up)
  rintro ⟨reached, whole, folder⟩
  rw [FileTree.followAll_append, led] at whole
  change (after.root.follow place name).bind _ = _ at whole
  simp only [FileTree.follow, found, real, Bool.false_eq_true, if_false, beq_iff_eq, down] at whole
  split at whole
  · cases whole
  · have nothing : after.root.get? (place ++ [name]) = none := by
      rw [FileTree.get?_child found]
      rfl
    change after.root.followAll (place ++ [name]) more = _ at whole
    cases more with
    | nil =>
      cases whole
      obtain ⟨entries, here⟩ := folder
      rw [nothing] at here
      cases here
    | cons next more =>
      rw [FileTree.followAll_cons, FileTree.follow, nothing] at whole
      cases whole

/-- Two dots come only after names that lead to a folder. -/
def Grounded (fs : FileSystem) (names : List String) : Prop :=
  ∀ before later, names = before ++ ".." :: later → fs.root.LeadsToFolder before

private theorem Grounded.prefix_of {more : List String} (grounded : Grounded fs (names ++ more)) :
    Grounded fs names := by
  rintro before later rfl
  exact grounded before (later ++ more) (by simp)

/-- To create the folders that end at the names of a list, which is given in reverse. -/
private theorem createUpward_endingIn {start reversed : List String}
    (whole : ∀ name rest, name :: rest <:+ reversed → Path.staysPut name = false →
      fs.fullNames ⟨(name :: rest).reverse⟩ = start ++ (name :: rest).reverse)
    (grounded : Grounded fs (start ++ reversed.reverse))
    (created : fs.createUpward (Path.endingIn reversed) = (after, .ok ())) :
    after = fs ∨ Made fs after (start ++ reversed.reverse) := by
  induction reversed generalizing after with
  | nil =>
    cases created
    exact Or.inl rfl
  | cons name rest ih =>
    have later : ∀ first others, first :: others <:+ rest → Path.staysPut first = false →
        fs.fullNames ⟨(first :: others).reverse⟩ = start ++ (first :: others).reverse :=
      fun first others ends => whole first others (ends.trans (List.suffix_cons name rest))
    rw [List.reverse_cons, ← List.append_assoc] at grounded ⊢
    have above : ∀ middle, fs.createUpward (Path.endingIn rest) = (middle, .ok ()) →
        middle = fs ∨ Made fs middle (start ++ rest.reverse) :=
      fun middle => ih later grounded.prefix_of
    unfold Path.endingIn at created
    cases stays : Path.staysPut name with
    | true =>
      rw [stays, if_pos rfl] at created
      rcases above after created with same | made
      · exact Or.inl same
      · exact Or.inr (made.stays (by simpa using stays))
    | false =>
      rw [stays, if_neg Bool.false_ne_true] at created
      have names : fs.fullNames ⟨(name :: rest).reverse⟩ = start ++ rest.reverse ++ [name] := by
        rw [whole name rest (List.suffix_refl _) stays, List.reverse_cons, List.append_assoc]
      have parents : ∀ middle, fs.createUpward (Path.endingIn rest) = (middle, .ok ()) →
          middle = fs ∨ middle.current = fs.current ∧ Extends fs.root middle.root ∧
            ¬middle.root.LeadsToFolder (start ++ rest.reverse ++ [name]) := by
        intro middle upward
        rcases above middle upward with same | made
        · exact Or.inl same
        · refine Or.inr ⟨made.current, made.more, made.not_leadsToFolder_below stays ?_⟩
          rintro rfl
          exact grounded _ [] rfl
      rw [← names] at parents ⊢
      rcases createUpward_cons parents created with ⟨same, -⟩ | made
      · exact Or.inl same
      · exact Or.inr made

theorem Misses.createFolders (misses : fs.Misses p) (grounded : fs.Grounded (fs.fullNames p))
    (created : fs.createFolders p = (after, .ok ())) : ∃ place, after.Shows p place [] := by
  suffices made : Made fs after (fs.fullNames p) by
    obtain ⟨place, led, found⟩ := made.empty
    refine ⟨place, misses.checked, ?_, found⟩
    rw [place?, fullNames_of_current made.current, led]
  have named := text_ne_empty_of_checked misses.checked
  unfold FileSystem.createFolders Path.upward at created
  rw [if_neg (by simpa using named)] at created
  suffices parents : ∀ middle, fs.createUpward
      (Path.endingIn (p.names.reverse.dropWhile Path.staysPut).tail) = (middle, .ok ()) →
      middle = fs ∨ middle.current = fs.current ∧ Extends fs.root middle.root ∧
        ¬middle.root.LeadsToFolder (fs.fullNames p) by
    rcases createUpward_cons parents created with ⟨-, folder⟩ | made
    · exact absurd folder misses.absent.not_leadsToFolder
    · exact made
  intro middle upward
  cases dropped : p.names.reverse.dropWhile Path.staysPut with
  | nil =>
    rw [dropped] at upward
    cases upward
    exact Or.inl rfl
  | cons name rest =>
    rw [dropped, List.tail_cons] at upward
    obtain ⟨real, front, stays, same⟩ := Path.split_of_dropWhile dropped
    have names : p.names = rest.reverse ++ name :: front.reverse := by
      have turned := congrArg List.reverse same
      rw [List.reverse_reverse] at turned
      simpa using turned
    have all : fs.fullNames p = fs.start p ++ rest.reverse ++ name :: front.reverse := by
      rw [fullNames_eq, names, List.append_assoc]
    rw [all] at grounded ⊢
    have whole : ∀ first others, first :: others <:+ rest → Path.staysPut first = false →
        fs.fullNames ⟨(first :: others).reverse⟩ = fs.start p ++ (first :: others).reverse := by
      intro first others ends realFirst
      refine fs.fullNames_of_prefix ?_ realFirst
      rw [names]
      exact (List.reverse_prefix.mpr ends).trans (List.prefix_append _ _)
    rcases createUpward_endingIn whole grounded.prefix_of upward with same | made
    · exact Or.inl same
    · refine Or.inr ⟨made.current, made.more, made.not_leadsToFolder_below real ?_⟩
      rintro rfl
      exact grounded _ _ rfl

private theorem place?_unslashed (led : fs.place? p = .ok place) :
    fs.place? p.unslashed = .ok place := by
  obtain ⟨slashes, still, whole⟩ := fs.fullNames_unslashed p
  rw [place?, whole] at led
  obtain ⟨next, first, rest⟩ := FileTree.followAll_append_eq_ok_iff.mp led
  rw [place?, first, FileTree.eq_of_followAll_stays still rest]

theorem Shows.createFolders {entries : List (String × FileTree)}
    (shows : fs.Shows p place entries) : fs.createFolders p = (fs, .ok ()) := by
  have named := text_ne_empty_of_checked shows.checked
  have present : fs.createFolder p = .error .entryExists := by
    unfold createFolder
    rw [shows.checked, walk_eq, place?_unslashed shows.led]
    simp [Except.map, bind, Except.bind, Spot.standing, shows.found]
  have folder : fs.isFolder p = true := by
    unfold isFolder entry?
    rw [find_eq shows.checked, shows.led]
    simp [Except.map, Spot.standing, shows.found]
  unfold FileSystem.createFolders Path.upward createUpward
  rw [if_neg (by simpa using named)]
  simp only [present]
  rw [unlessFolder, if_pos folder]

end FileSystem

end ProfileShell
