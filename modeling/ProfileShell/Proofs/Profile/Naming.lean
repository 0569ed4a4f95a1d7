import ProfileShell.Profile.Naming
import ProfileShell.Proofs.Record.Allocation
import ProfileShell.Proofs.Text.Case

/-!
Which names have a snake-case form that is a valid identifier.

Letters become small and underscores come in, but the characters that an identifier may not hold or
not start with are no letters and no separators. They stay, and no others become one of them. So the
form of a name is valid exactly if the name itself is.
-/

set_option autoImplicit false
set_option relaxedAutoImplicit false

namespace ProfileShell

def Record.Restricted (c : Char) : Prop :=
  c = '.' ∨ Record.isForbidden c = true

private theorem Record.restricted_iff {c : Char} :
    Record.Restricted c ↔ c = '.' ∨ c = '/' ∨ c = '\\' ∨ c = '\x00' :=
  or_congr_right Record.isForbidden_iff

namespace Text

private theorem smallForm_of_restricted {c : Char} (restricted : Record.Restricted c) :
    smallForm c = [c] := by
  rcases Record.restricted_iff.mp restricted with rfl | rfl | rfl | rfl <;> decide +kernel

private theorem mem_smallForm_iff {c d : Char} (restricted : Record.Restricted d) :
    d ∈ smallForm c ↔ d = c := by
  have low : d.toNat ≤ 0x60 := by
    rcases Record.restricted_iff.mp restricted with rfl | rfl | rfl | rfl <;> decide
  exact mem_smallForm_iff_of_low low (smallForm_of_restricted restricted)

private theorem head?_smallForm_eq_dot_iff (c : Char) :
    (smallForm c).head? = some '.' ↔ c = '.' := by
  have dot : Record.Restricted '.' := Or.inl rfl
  constructor
  · intro first
    exact ((mem_smallForm_iff dot).mp (List.mem_of_mem_head? first)).symm
  · rintro rfl
    rw [smallForm_of_restricted dot]
    rfl

end Text

namespace Profile

section Restricted

variable {d : Char} (restricted : Record.Restricted d)
include restricted

private theorem joinSeparator_eq_iff (c : Char) : joinSeparator c = d ↔ c = d := by
  unfold joinSeparator
  split
  · rename_i separator
    rw [Bool.or_eq_true, decide_eq_true_eq, decide_eq_true_eq] at separator
    rcases Record.restricted_iff.mp restricted with rfl | rfl | rfl | rfl <;>
      rcases separator with rfl | rfl <;> decide
  · rfl

private theorem mem_snakeFrom_iff (previous : Option Char) (cs : List Char) :
    d ∈ snakeFrom previous cs ↔ d ∈ cs := by
  have other : d ≠ '_' := by
    rcases Record.restricted_iff.mp restricted with rfl | rfl | rfl | rfl <;> decide
  induction cs generalizing previous with
  | nil => rfl
  | cons c cs ih =>
    have later : d ∈ snakeFrom (some c) cs ↔ d ∈ cs := ih (some c)
    rw [snakeFrom, List.mem_append, List.mem_append, later, Text.mem_smallForm_iff restricted,
      List.mem_cons]
    split <;> simp [other]

private theorem mem_snakeCase_iff (name : String) :
    d ∈ (snakeCase name).toList ↔ d ∈ name.toList := by
  unfold snakeCase
  simp only [String.toList_ofList, mem_snakeFrom_iff restricted, List.mem_map,
    joinSeparator_eq_iff restricted, exists_eq_right]

end Restricted

theorem snakeCase_eq_empty_iff (name : String) : snakeCase name = "" ↔ name = "" := by
  unfold snakeCase
  rw [← String.toList_eq_nil_iff, ← String.toList_eq_nil_iff, String.toList_ofList]
  cases name.toList <;> simp [snakeFrom, Text.smallForm_ne_nil]

private theorem head?_snakeCase_eq_dot_iff (name : String) :
    (snakeCase name).toList.head? = some '.' ↔ name.toList.head? = some '.' := by
  unfold snakeCase
  rw [String.toList_ofList]
  cases name.toList with
  | nil => rfl
  | cons c cs =>
    have first : (snakeFrom none ((c :: cs).map joinSeparator)).head? =
        (Text.smallForm (joinSeparator c)).head? := by
      simp only [List.map_cons, snakeFrom, startsWord, Bool.false_eq_true, if_false,
        List.nil_append]
      exact List.head?_append_of_ne_nil _ (Text.smallForm_ne_nil _)
    rw [first, Text.head?_smallForm_eq_dot_iff, joinSeparator_eq_iff (Or.inl rfl),
      List.head?_cons, Option.some_inj]

/-- The snake-case form of a name is a valid identifier exactly if the name itself is one. -/
theorem isValidIdentifier_snakeCase (name : String) :
    Record.isValidIdentifier (snakeCase name) = Record.isValidIdentifier name :=
  Record.isValidIdentifier_congr (snakeCase_eq_empty_iff name) (head?_snakeCase_eq_dot_iff name)
    fun _ forbidden => mem_snakeCase_iff (Or.inr forbidden) name

end Profile

end ProfileShell
