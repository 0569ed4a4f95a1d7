import Mathlib.Data.List.Nodup
import Mathlib.Data.List.Perm.Subperm
import Mathlib.Data.List.Range
import Mathlib.Data.Nat.Find
import ProfileShell.Proofs.Record.Identifier
import ProfileShell.Record.Allocation

/-!
Which candidate is allocated.

Candidates differ from each other, so among one more of them than there are taken identifiers one is
free. The first free one is allocated, which depends only on what is taken and not on the order.
Candidates for a valid identifier are valid.
-/

set_option autoImplicit false
set_option relaxedAutoImplicit false

namespace ProfileShell.Record

theorem candidate_injective (base : String) : Function.Injective (candidate base) := by
  have longer : ∀ k, base ≠ candidate base (k + 1) := by
    intro k same
    have sizes := congrArg String.length same
    have underscore : "_".length = 1 := by decide
    simp only [candidate, String.length_append] at sizes
    omega
  intro i j same
  cases i with
  | zero =>
    cases j with
    | zero => rfl
    | succ j => exact absurd same (longer j)
  | succ i =>
    cases j with
    | zero => exact absurd same.symm (longer i)
    | succ j =>
      have numbers : toString (i + 1) = toString (j + 1) :=
        (String.append_right_inj (base ++ "_")).mp same
      rw [Nat.toString_eq_ofList_toDigits, Nat.toString_eq_ofList_toDigits,
        String.ofList_inj] at numbers
      have values := congrArg (fun digits => Nat.ofDigitChars 10 digits 0) numbers
      simpa only [Nat.ofDigitChars_ten_toDigits] using values

/-- One of the candidates up to the number of taken identifiers is free. -/
theorem exists_free (base : String) (taken : List String) :
    ∃ n, n ≤ taken.length ∧ candidate base n ∉ taken := by
  by_contra full
  push Not at full
  have distinct : ((List.range (taken.length + 1)).map (candidate base)).Nodup :=
    List.nodup_range.map (candidate_injective base)
  have inside : (List.range (taken.length + 1)).map (candidate base) ⊆ taken := by
    intro id member
    obtain ⟨n, below, rfl⟩ := List.mem_map.mp member
    exact full n (Nat.lt_succ_iff.mp (List.mem_range.mp below))
  have few := (distinct.subperm inside).length_le
  rw [List.length_map, List.length_range] at few
  omega

private theorem firstFree_eq {taken : String → Bool} {base : String} {k n bound : Nat}
    (free : taken (candidate base n) = false)
    (below : ∀ i, k ≤ i → i < n → taken (candidate base i) = true) (start : k ≤ n)
    (enough : n ≤ k + bound) : firstFree taken base k bound = candidate base n := by
  induction bound generalizing k with
  | zero =>
    obtain rfl : k = n := by omega
    rfl
  | succ bound ih =>
    unfold firstFree
    by_cases here : k = n
    · rw [here, free]
      rfl
    · rw [below k (Nat.le_refl k) (by omega), if_pos rfl]
      exact ih (fun i later => below i (by omega)) (by omega) (by omega)

/-- The first free candidate is allocated. -/
theorem allocate_eq {base : String} {taken : List String} {n : Nat}
    (free : candidate base n ∉ taken) (below : ∀ i, i < n → candidate base i ∈ taken) :
    allocate base taken = candidate base n := by
  obtain ⟨m, few, freeToo⟩ := exists_free base taken
  have first : n ≤ m := by
    by_contra earlier
    exact freeToo (below m (by omega))
  refine firstFree_eq (by simpa using free) (fun i _ less => by simpa using below i less)
    (Nat.zero_le n) (by omega)

theorem exists_allocate_eq (base : String) (taken : List String) :
    ∃ n, candidate base n ∉ taken ∧ (∀ i, i < n → candidate base i ∈ taken) ∧
      allocate base taken = candidate base n := by
  have some : ∃ n, candidate base n ∉ taken :=
    let ⟨n, _, free⟩ := exists_free base taken
    ⟨n, free⟩
  have below : ∀ i, i < Nat.find some → candidate base i ∈ taken :=
    fun i less => not_not.mp (Nat.find_min some less)
  exact ⟨Nat.find some, Nat.find_spec some, below, allocate_eq (Nat.find_spec some) below⟩

theorem allocate_not_mem (base : String) (ids : List String) : allocate base ids ∉ ids := by
  obtain ⟨n, free, -, allocated⟩ := exists_allocate_eq base ids
  rw [allocated]
  exact free

/-- What is allocated depends only on which identifiers are taken. -/
theorem allocate_congr {base : String} {taken others : List String}
    (same : ∀ id, id ∈ taken ↔ id ∈ others) : allocate base taken = allocate base others := by
  obtain ⟨n, free, below, allocated⟩ := exists_allocate_eq base others
  rw [allocated]
  exact allocate_eq (mt (same _).mp free) fun i less => (same _).mpr (below i less)

theorem isValidIdentifier_candidate {base : String} (nonempty : base ≠ "") (n : Nat) :
    isValidIdentifier (candidate base n) = isValidIdentifier base := by
  cases n with
  | zero => rfl
  | succ n =>
    refine isValidIdentifier_congr ?_ ?_ fun d forbidden => ?_
    · simp [candidate, nonempty]
    · have letters : base.toList ≠ [] := mt String.toList_eq_nil_iff.mp nonempty
      simp only [candidate, String.toList_append, List.append_assoc]
      rw [List.head?_append_of_ne_nil _ letters]
    · have digits : (toString (n + 1)).toList = Nat.toDigits 10 (n + 1) := by
        rw [Nat.toString_eq_ofList_toDigits, String.toList_ofList]
      have numbered : d ∉ "_".toList ++ (toString (n + 1)).toList := by
        rw [digits, List.mem_append, not_or]
        refine ⟨fun member => ?_, fun member => ?_⟩
        · obtain rfl : d = '_' := List.mem_singleton.mp member
          exact absurd forbidden (by decide)
        · have digit : d.isDigit = true :=
            Nat.isDigit_of_mem_toDigits (by decide) (by decide) member
          rcases isForbidden_iff.mp forbidden with rfl | rfl | rfl <;>
            exact absurd digit (by decide)
      simp only [candidate, String.toList_append, List.append_assoc]
      rw [List.mem_append, or_iff_left numbered]

end ProfileShell.Record
