import Mathlib.Data.List.Nodup
import ProfileShell.Path
import ProfileShell.Proofs.Record.Identifier

/-!
File names of records.

The name of a record's file determines its identifier, for every extension. The name of a valid
identifier with an extension without slash and NUL is one that is looked up in a folder.
-/

set_option autoImplicit false
set_option relaxedAutoImplicit false

namespace ProfileShell.Record

variable {id other name extension : String}

theorem toList_fileName (id extension : String) :
    (fileName id extension).toList = id.toList ++ '.' :: extension.toList := by
  simp [fileName]

private theorem dropEnding?_eq_some_iff {ending cs rest : List Char} :
    dropEnding? ending cs = some rest ↔ cs = rest ++ ending := by
  unfold dropEnding?
  constructor
  · intro dropped
    split at dropped
    · rename_i ends
      obtain ⟨front, whole⟩ := List.isSuffixOf_iff_suffix.mp ends
      rw [← whole] at dropped
      have same : front = rest := by simpa using dropped
      rw [← same, whole]
    · cases dropped
  · rintro rfl
    simp

theorem stem?_eq_some_iff : stem? name extension = some id ↔ name = fileName id extension := by
  unfold stem?
  rw [Option.map_eq_some_iff, ← String.toList_inj, toList_fileName]
  constructor
  · rintro ⟨rest, dropped, rfl⟩
    rw [String.toList_ofList]
    exact dropEnding?_eq_some_iff.mp dropped
  · intro same
    exact ⟨id.toList, dropEnding?_eq_some_iff.mpr same, String.ofList_toList⟩

theorem stem?_fileName (id extension : String) :
    stem? (fileName id extension) extension = some id :=
  stem?_eq_some_iff.mpr rfl

theorem fileName_injective (same : fileName id extension = fileName other extension) :
    id = other := by
  have stems := stem?_fileName id extension
  rw [same, stem?_fileName] at stems
  exact (Option.some.inj stems).symm

theorem nodup_stems {names : List String} (distinct : names.Nodup) (extension : String) :
    (names.filterMap fun name => stem? name extension).Nodup := by
  refine distinct.filterMap ?_
  intro name other id own same
  rw [stem?_eq_some_iff.mp own, stem?_eq_some_iff.mp same]

structure IsExtension (extension : String) : Prop where
  slashless : '/' ∉ extension.toList
  nulless : '\x00' ∉ extension.toList

variable (legal : IsExtension extension) (valid : isValidIdentifier id = true)
include legal valid

theorem slash_not_mem_fileName : '/' ∉ (fileName id extension).toList := by
  obtain ⟨_, _, -, -, slashless, -⟩ := exists_of_isValidIdentifier valid
  rw [toList_fileName]
  simp [slashless, legal.slashless]

theorem nul_not_mem_fileName : '\x00' ∉ (fileName id extension).toList := by
  obtain ⟨_, _, -, -, -, nulless⟩ := exists_of_isValidIdentifier valid
  rw [toList_fileName]
  simp [nulless, legal.nulless]

omit legal in
theorem fileName_ne_dots (extension : String) :
    fileName id extension ≠ "" ∧ fileName id extension ≠ "." ∧ fileName id extension ≠ ".." := by
  obtain ⟨c, cs, letters, noDot, -⟩ := exists_of_isValidIdentifier valid
  refine ⟨?_, ?_, ?_⟩ <;> intro same
  all_goals
    have first := congrArg String.toList same
    rw [toList_fileName, letters] at first
    simp_all

end ProfileShell.Record
