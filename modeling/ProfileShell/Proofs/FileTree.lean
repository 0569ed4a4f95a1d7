import Mathlib.Data.List.Basic
import ProfileShell.FileTree

/-!
What is found in a tree after an entry was put into it or erased.

An entry is put into a folder, or erased from it, by its name. The folder then holds the changed
entries, and whatever else was a folder still is one.
-/

set_option autoImplicit false
set_option relaxedAutoImplicit false

namespace ProfileShell.FileTree

variable {t u : FileTree} {place : Place} {name : String} {entries : List (String × FileTree)}

section Entries

private theorem lookup_entry (name : String) (e : String × FileTree)
    (rest : List (String × FileTree)) :
    (e :: rest).lookup name = if name = e.1 then some e.2 else rest.lookup name := by
  rw [List.lookup_cons]
  by_cases here : name = e.1
  · rw [if_pos here, beq_iff_eq.mpr here]
  · rw [if_neg here, beq_eq_false_iff_ne.mpr here]

theorem lookup_putEntry (name other : String) (t : FileTree) (entries : List (String × FileTree)) :
    (putEntry name t entries).lookup other =
      if other = name then some t else entries.lookup other := by
  induction entries with
  | nil => rw [putEntry, lookup_entry]
  | cons e rest ih =>
    unfold putEntry
    by_cases here : e.1 = name
    · rw [if_pos here, lookup_entry, lookup_entry, here]
      split <;> rfl
    · rw [if_neg here, lookup_entry, lookup_entry, ih]
      by_cases found : other = e.1
      · have apart : other ≠ name := fun same => here (found.symm.trans same)
        rw [if_pos found, if_pos found, if_neg apart]
      · rw [if_neg found, if_neg found]

theorem lookup_filter (name other : String) (entries : List (String × FileTree)) :
    (entries.filter fun e => e.1 != name).lookup other =
      if other = name then none else entries.lookup other := by
  induction entries with
  | nil => simp
  | cons e rest ih =>
    by_cases here : e.1 = name
    · rw [List.filter_cons_of_neg (by simp [here]), ih, lookup_entry, here]
      split <;> rfl
    · rw [List.filter_cons_of_pos (by simp [here]), lookup_entry, lookup_entry, ih]
      by_cases found : other = e.1
      · have apart : other ≠ name := fun same => here (found.symm.trans same)
        rw [if_pos found, if_pos found, if_neg apart]
      · rw [if_neg found, if_neg found]

private theorem names_putEntry (name : String) (t : FileTree) (entries : List (String × FileTree)) :
    (putEntry name t entries).map Prod.fst =
      if name ∈ entries.map Prod.fst then entries.map Prod.fst
      else entries.map Prod.fst ++ [name] := by
  induction entries with
  | nil => simp [putEntry]
  | cons e rest ih =>
    unfold putEntry
    by_cases here : e.1 = name
    · simp [here]
    · have apart : name ≠ e.1 := fun same => here same.symm
      rw [if_neg here, List.map_cons, ih, List.map_cons]
      by_cases later : name ∈ rest.map Prod.fst <;> simp [later, apart]

theorem nodup_putEntry (distinct : (entries.map Prod.fst).Nodup) (name : String) (t : FileTree) :
    ((putEntry name t entries).map Prod.fst).Nodup := by
  rw [names_putEntry]
  split
  · exact distinct
  · rename_i fresh
    exact List.nodup_append.mpr ⟨distinct, by simp, by
      intro a member b single
      rw [List.mem_singleton.mp single]
      rintro rfl
      exact fresh member⟩

theorem nodup_filter (distinct : (entries.map Prod.fst).Nodup) (test : String × FileTree → Bool) :
    ((entries.filter test).map Prod.fst).Nodup :=
  distinct.sublist (List.filter_sublist.map Prod.fst)

private theorem mem_of_lookup (found : entries.lookup name = some t) : (name, t) ∈ entries := by
  induction entries with
  | nil => cases found
  | cons e rest ih =>
    rw [lookup_entry] at found
    split at found
    · rename_i here
      rw [here, ← Option.some.inj found]
      exact List.mem_cons_self
    · exact List.mem_cons_of_mem e (ih found)

private theorem lookup_of_mem (distinct : (entries.map Prod.fst).Nodup)
    (member : (name, t) ∈ entries) : entries.lookup name = some t := by
  induction entries with
  | nil => cases member
  | cons e rest ih =>
    rw [List.map_cons, List.nodup_cons] at distinct
    rw [lookup_entry]
    rcases List.mem_cons.mp member with rfl | later
    · rw [if_pos rfl]
    · have apart : name ≠ e.1 := by
        rintro rfl
        exact distinct.1 (List.mem_map.mpr ⟨_, later, rfl⟩)
      rw [if_neg apart]
      exact ih distinct.2 later

private theorem fileNames_folder (entries : List (String × FileTree)) :
    (FileTree.folder entries).fileNames =
      (entries.filter fun e => !e.2.isFolder).map Prod.fst := by
  unfold fileNames
  induction entries with
  | nil => rfl
  | cons e rest ih => cases folder : e.2.isFolder <;> simp [folder, ih]

theorem nodup_fileNames (distinct : (entries.map Prod.fst).Nodup) :
    (FileTree.folder entries).fileNames.Nodup := by
  rw [fileNames_folder]
  exact nodup_filter distinct _

theorem mem_fileNames_iff (distinct : (entries.map Prod.fst).Nodup) (name : String) :
    name ∈ (FileTree.folder entries).fileNames ↔
      ∃ content, entries.lookup name = some (.file content) := by
  rw [fileNames_folder, List.mem_map]
  constructor
  · rintro ⟨⟨_, t⟩, member, rfl⟩
    obtain ⟨member, single⟩ := List.mem_filter.mp member
    cases t with
    | file content => exact ⟨content, lookup_of_mem distinct member⟩
    | folder others => cases single
  · rintro ⟨content, found⟩
    exact ⟨(name, .file content), List.mem_filter.mpr ⟨mem_of_lookup found, rfl⟩, rfl⟩

end Entries

private theorem get?_append (t : FileTree) (place rest : Place) :
    t.get? (place ++ rest) = (t.get? place).bind fun found => found.get? rest := by
  induction place generalizing t with
  | nil => simp [get?]
  | cons name place ih =>
    cases t with
    | file content => simp [get?]
    | folder entries =>
      rw [List.cons_append, get?, get?]
      cases entries.lookup name with
      | none => rfl
      | some u => exact ih u

theorem get?_cons_eq_some_iff {first : String} {v : FileTree} :
    t.get? (first :: place) = some v ↔
      ∃ others u, t = .folder others ∧ others.lookup first = some u ∧ u.get? place = some v := by
  constructor
  · intro found
    cases t with
    | file content => cases found
    | folder others =>
      rw [get?] at found
      cases inner : others.lookup first with
      | none => simp [inner] at found
      | some u =>
        simp only [inner] at found
        exact ⟨others, u, rfl, inner, found⟩
  · rintro ⟨others, u, rfl, inner, found⟩
    rw [get?, inner]
    exact found

def HasFolder (t : FileTree) (place : Place) : Prop :=
  ∃ entries, t.get? place = some (.folder entries)

def Extends (t u : FileTree) : Prop :=
  ∀ place, t.HasFolder place → u.HasFolder place

theorem Extends.trans {v : FileTree} (first : Extends t u) (second : Extends u v) : Extends t v :=
  fun place folder => second place (first place folder)

theorem get?_child (found : t.get? place = some (.folder entries)) (name : String) :
    t.get? (place ++ [name]) = entries.lookup name := by
  rw [get?_append, found, Option.bind_some, get?]
  cases entries.lookup name with
  | none => rfl
  | some u => cases u <;> rfl

theorem HasFolder.parent (folder : t.HasFolder (place ++ [name])) : t.HasFolder place := by
  obtain ⟨entries, found⟩ := folder
  rw [get?_append] at found
  obtain ⟨u, parent, child⟩ := Option.bind_eq_some_iff.mp found
  cases u with
  | file content => cases child
  | folder siblings => exact ⟨siblings, parent⟩

private theorem HasFolder.top (folder : t.HasFolder place) : t.HasFolder [] := by
  obtain ⟨others, found⟩ := folder
  cases t with
  | file content => cases place <;> cases found
  | folder entries => exact ⟨entries, rfl⟩

private theorem HasFolder.inside {u : FileTree} (inner : entries.lookup name = some u)
    (folder : u.HasFolder place) : (FileTree.folder entries).HasFolder (name :: place) := by
  obtain ⟨others, found⟩ := folder
  exact ⟨others, get?_cons_eq_some_iff.mpr ⟨entries, u, rfl, inner, found⟩⟩

section Changes

/-- To put an entry into a folder of the tree is to replace that folder. -/
theorem put_child (found : t.get? place = some (.folder entries)) (name : String)
    (new : FileTree) :
    t.put (place ++ [name]) new = t.put place (.folder (putEntry name new entries)) := by
  induction place generalizing t with
  | nil =>
    cases found
    simp [put]
  | cons first place ih =>
    obtain ⟨others, u, rfl, inner, below⟩ := get?_cons_eq_some_iff.mp found
    rw [List.cons_append, put, put, inner, Option.getD_some, ih below]

private theorem erase_cons {first : String} {others : List (String × FileTree)} {u : FileTree}
    (inner : others.lookup first = some u) (nonempty : place ≠ []) :
    (folder others).erase (first :: place) = .folder (putEntry first (u.erase place) others) := by
  rw [erase, inner]
  exact nonempty

theorem erase_child (found : t.get? place = some (.folder entries)) (name : String) :
    t.erase (place ++ [name]) =
      t.put place (.folder (entries.filter fun e => e.1 != name)) := by
  induction place generalizing t with
  | nil =>
    cases found
    simp [erase, put]
  | cons first place ih =>
    obtain ⟨others, u, rfl, inner, below⟩ := get?_cons_eq_some_iff.mp found
    have nonempty : place ++ [name] ≠ [] := List.append_ne_nil_of_right_ne_nil place (by simp)
    rw [List.cons_append, erase_cons inner nonempty, put, inner, Option.getD_some, ih below]

private theorem get?_put_self (found : t.get? place = some u) (new : FileTree) :
    (t.put place new).get? place = some new := by
  induction place generalizing t with
  | nil => simp [put, get?]
  | cons first place ih =>
    obtain ⟨others, v, rfl, inner, below⟩ := get?_cons_eq_some_iff.mp found
    rw [put, get?, lookup_putEntry, if_pos rfl, inner]
    exact ih below

theorem get?_put (found : t.get? place = some (.folder entries)) (name : String)
    (new : FileTree) :
    (t.put (place ++ [name]) new).get? place = some (.folder (putEntry name new entries)) := by
  rw [put_child found]
  exact get?_put_self found _

theorem get?_erase (found : t.get? place = some (.folder entries)) (name : String) :
    (t.erase (place ++ [name])).get? place =
      some (.folder (entries.filter fun e => e.1 != name)) := by
  rw [erase_child found]
  exact get?_put_self found _

private theorem extends_folder {others : List (String × FileTree)}
    (kept : ∀ first u, entries.lookup first = some u → ∀ place, u.HasFolder place →
      ∃ v, others.lookup first = some v ∧ v.HasFolder place) :
    Extends (.folder entries) (.folder others) := by
  rintro place ⟨found, at_place⟩
  cases place with
  | nil => exact ⟨others, rfl⟩
  | cons first place =>
    obtain ⟨siblings, u, same, inner, below⟩ := get?_cons_eq_some_iff.mp at_place
    cases same
    obtain ⟨v, outer, folder⟩ := kept first u inner place ⟨found, below⟩
    exact folder.inside outer

private theorem extends_put_self {new : FileTree} (found : t.get? place = some u)
    (more : Extends u new) : Extends t (t.put place new) := by
  induction place generalizing t with
  | nil =>
    cases found
    simpa [put] using more
  | cons first place ih =>
    obtain ⟨others, v, rfl, inner, below⟩ := get?_cons_eq_some_iff.mp found
    rw [put, inner, Option.getD_some]
    refine extends_folder fun name old entry inside folder => ?_
    by_cases here : name = first
    · subst here
      cases inner.symm.trans entry
      exact ⟨_, by rw [lookup_putEntry, if_pos rfl], ih below inside folder⟩
    · exact ⟨old, by rw [lookup_putEntry, if_neg here, entry], folder⟩

private theorem ne_of_hasFolder {first : String} {inside : Place}
    (found : t.get? place = some (.folder entries)) (single : ¬t.HasFolder (place ++ [name]))
    (entry : entries.lookup first = some u) (folder : u.HasFolder inside) : first ≠ name := by
  rintro rfl
  obtain ⟨others, top⟩ := folder.top
  cases top
  exact single ⟨others, (get?_child found first).trans entry⟩

theorem extends_put (parent : t.HasFolder place) (free : ¬t.HasFolder (place ++ [name]))
    (new : FileTree) : Extends t (t.put (place ++ [name]) new) := by
  obtain ⟨entries, found⟩ := parent
  rw [put_child found]
  refine extends_put_self found (extends_folder fun first u entry inside folder => ?_)
  have other := ne_of_hasFolder found free entry folder
  exact ⟨u, by rw [lookup_putEntry, if_neg other, entry], folder⟩

theorem extends_erase (parent : t.HasFolder place) (single : ¬t.HasFolder (place ++ [name])) :
    Extends t (t.erase (place ++ [name])) := by
  obtain ⟨entries, found⟩ := parent
  rw [erase_child found]
  refine extends_put_self found (extends_folder fun first u entry inside folder => ?_)
  have other := ne_of_hasFolder found single entry folder
  exact ⟨u, by rw [lookup_filter, if_neg other, entry], folder⟩

end Changes

end ProfileShell.FileTree
