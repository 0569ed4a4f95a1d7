import Mathlib.Data.List.DropRight
import ProfileShell.Command.Registry

/-!
Trimming and the normal form of command names.

Trimming a second time changes nothing, and it can be exchanged with the case folding of letters,
since no blank is a letter. So a normalized name is trimmed, in small letters, and its own normal
form.
-/

set_option autoImplicit false
set_option relaxedAutoImplicit false

namespace ProfileShell.Text

private theorem trimChars_eq_rdropWhile (cs : List Char) :
    trimChars cs = (cs.dropWhile isBlank).rdropWhile isBlank := rfl

private theorem dropWhile_rdropWhile_dropWhile (cs : List Char) :
    ((cs.dropWhile isBlank).rdropWhile isBlank).dropWhile isBlank =
      (cs.dropWhile isBlank).rdropWhile isBlank := by
  rw [List.dropWhile_eq_self_iff]
  intro nonempty
  have front := List.rdropWhile_prefix isBlank (cs.dropWhile isBlank)
  have longer : 0 < (cs.dropWhile isBlank).length :=
    Nat.lt_of_lt_of_le nonempty front.length_le
  have same : ((cs.dropWhile isBlank).rdropWhile isBlank)[0] = (cs.dropWhile isBlank)[0] :=
    front.getElem nonempty
  rw [same]
  exact List.dropWhile_eq_self_iff.mp (List.dropWhile_idempotent isBlank cs) longer

private theorem trimChars_trimChars (cs : List Char) : trimChars (trimChars cs) = trimChars cs := by
  simp only [trimChars_eq_rdropWhile]
  rw [dropWhile_rdropWhile_dropWhile, List.rdropWhile_idempotent]

@[simp] theorem trim_trim (s : String) : trim (trim s) = trim s := by
  simp only [trim, String.toList_ofList, trimChars_trimChars]

/-- Nothing is left exactly of a blank text. -/
theorem trim_eq_empty_iff (s : String) : trim s = "" ↔ ∀ c ∈ s.toList, isBlank c = true := by
  unfold trim
  rw [← String.toList_eq_nil_iff, String.toList_ofList, trimChars_eq_rdropWhile,
    List.rdropWhile_eq_nil_iff]
  constructor
  · intro blank c member
    rw [← List.takeWhile_append_dropWhile (p := isBlank) (l := s.toList)] at member
    rcases List.mem_append.mp member with front | rest
    · exact List.mem_takeWhile_imp front
    · exact blank c rest
  · intro blank c member
    exact blank c ((List.dropWhile_sublist isBlank).subset member)

private theorem toNat_toLower (c : Char) :
    c.toLower.toNat = if 65 ≤ c.toNat ∧ c.toNat ≤ 90 then c.toNat + 32 else c.toNat := by
  have capital : (c.val ≥ 'A'.val ∧ c.val ≤ 'Z'.val) ↔ 65 ≤ c.toNat ∧ c.toNat ≤ 90 := by
    simp only [ge_iff_le, UInt32.le_iff_toNat_le]
    rfl
  unfold Char.toLower
  split
  · rename_i h
    rw [if_pos (capital.mp h)]
    have bound := (capital.mp h).2
    change (c.val + 32).toNat = c.toNat + 32
    rw [UInt32.toNat_add]
    exact Nat.mod_eq_of_lt (by change c.toNat + 32 < 2 ^ 32; omega)
  · rename_i h
    rw [if_neg (fun range => h (capital.mpr range))]

private theorem toLower_toLower (c : Char) : c.toLower.toLower = c.toLower := by
  apply Char.toNat_inj.mp
  simp only [toNat_toLower]
  split_ifs <;> omega

private theorem isBlank_toLower (c : Char) : isBlank c.toLower = isBlank c := by
  rw [Bool.eq_iff_iff]
  simp only [isBlank, toNat_toLower, Bool.or_eq_true, Bool.and_eq_true, beq_iff_eq,
    decide_eq_true_eq]
  split_ifs <;> omega

private theorem dropWhile_isBlank_map_toLower (cs : List Char) :
    (cs.map Char.toLower).dropWhile isBlank = (cs.dropWhile isBlank).map Char.toLower := by
  rw [List.dropWhile_map]
  congr 2
  funext c
  exact isBlank_toLower c

private theorem trimChars_map_toLower (cs : List Char) :
    trimChars (cs.map Char.toLower) = (trimChars cs).map Char.toLower := by
  simp only [trimChars, dropWhile_isBlank_map_toLower, ← List.map_reverse]

private theorem trim_lowerAscii (s : String) : trim (lowerAscii s) = lowerAscii (trim s) := by
  rw [trim, toList_lowerAscii, trimChars_map_toLower, lowerAscii, trim, String.toList_ofList]

@[simp] theorem lowerAscii_lowerAscii (s : String) : lowerAscii (lowerAscii s) = lowerAscii s := by
  rw [lowerAscii, toList_lowerAscii, List.map_map, lowerAscii]
  congr 2
  funext c
  exact toLower_toLower c

end ProfileShell.Text

namespace ProfileShell.Command

open Text (trim lowerAscii)

@[simp] theorem trim_normalize (name : String) : trim (normalize name) = normalize name := by
  rw [normalize, Text.trim_lowerAscii, Text.trim_trim]

@[simp] theorem lowerAscii_normalize (name : String) :
    lowerAscii (normalize name) = normalize name :=
  Text.lowerAscii_lowerAscii _

@[simp] theorem normalize_normalize (name : String) :
    normalize (normalize name) = normalize name := by
  rw [normalize, trim_normalize, lowerAscii_normalize]

end ProfileShell.Command
