import ProfileShell.Record.Identifier

/-!
Which identifiers are valid.
-/

set_option autoImplicit false
set_option relaxedAutoImplicit false

namespace ProfileShell.Record

variable {id other : String}

theorem isForbidden_iff {c : Char} :
    isForbidden c = true ↔ c = '/' ∨ c = '\\' ∨ c = '\x00' := by
  simp [isForbidden, or_assoc]

private theorem isValidIdentifier_iff :
    isValidIdentifier id = true ↔
      id ≠ "" ∧ id.toList.head? ≠ some '.' ∧ ∀ d ∈ id.toList, isForbidden d = false := by
  unfold isValidIdentifier identifierFault
  rw [ne_eq, ← String.toList_eq_nil_iff]
  cases id.toList with
  | nil => simp
  | cons c cs => by_cases dot : c = '.' <;> simp [dot]

/-- Whether an identifier is valid depends on whether it is empty, on whether it starts with a dot
and on the forbidden characters in it. -/
theorem isValidIdentifier_congr (empty : id = "" ↔ other = "")
    (dot : id.toList.head? = some '.' ↔ other.toList.head? = some '.')
    (held : ∀ d, isForbidden d = true → (d ∈ id.toList ↔ d ∈ other.toList)) :
    isValidIdentifier id = isValidIdentifier other := by
  have clean : (∀ d ∈ id.toList, isForbidden d = false) ↔
      ∀ d ∈ other.toList, isForbidden d = false := by
    simp only [← Bool.not_eq_true]
    exact ⟨fun free d member forbidden => free d ((held d forbidden).mpr member) forbidden,
      fun free d member forbidden => free d ((held d forbidden).mp member) forbidden⟩
  rw [Bool.eq_iff_iff, isValidIdentifier_iff, isValidIdentifier_iff]
  exact and_congr (not_congr empty) (and_congr (not_congr dot) clean)

theorem exists_of_isValidIdentifier (valid : isValidIdentifier id = true) :
    ∃ c cs, id.toList = c :: cs ∧ c ≠ '.' ∧ '/' ∉ id.toList ∧ '\x00' ∉ id.toList := by
  obtain ⟨nonempty, noDot, clean⟩ := isValidIdentifier_iff.mp valid
  have without : ∀ d, isForbidden d = true → d ∉ id.toList := by
    intro d forbidden member
    rw [clean d member] at forbidden
    cases forbidden
  cases letters : id.toList with
  | nil => exact absurd (String.toList_eq_nil_iff.mp letters) nonempty
  | cons c cs =>
    rw [letters] at noDot without
    exact ⟨c, cs, rfl, fun dot => noDot (congrArg some dot), without '/' rfl, without '\x00' rfl⟩

theorem checkIdentifier_of_valid (valid : isValidIdentifier id = true) :
    checkIdentifier id = .ok () := by
  unfold isValidIdentifier at valid
  unfold checkIdentifier
  rw [Option.isNone_iff_eq_none.mp valid]

theorem checkIdentifier_of_invalid (invalid : isValidIdentifier id = false) :
    ∃ fault, checkIdentifier id = .error (.store fault) := by
  unfold isValidIdentifier at invalid
  unfold checkIdentifier
  cases found : identifierFault id with
  | none => simp [found] at invalid
  | some fault => exact ⟨fault, rfl⟩

theorem isValidIdentifier_of_checkIdentifier (checked : checkIdentifier id = .ok ()) :
    isValidIdentifier id = true := by
  cases valid : isValidIdentifier id with
  | true => rfl
  | false =>
    obtain ⟨fault, refused⟩ := checkIdentifier_of_invalid valid
    rw [refused] at checked
    cases checked

end ProfileShell.Record
