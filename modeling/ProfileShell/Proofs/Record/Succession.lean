import Mathlib.Tactic.Tauto
import ProfileShell.Proofs.Record.Allocation

/-!
Identifiers that are allocated one after another.

The number that is allocated for a base does not fall when more identifiers are taken. An identifier
that was allocated is taken from then on, so along a run no identifier comes twice, and the numbers
for one base rise. Candidates of different bases may be the same text; that costs a base some of its
numbers, but not the order of those it gets.
-/

set_option autoImplicit false
set_option relaxedAutoImplicit false

namespace ProfileShell.Record

/-- Allocate identifiers for some bases in turn. Each of them is taken before the next one. -/
def allocateInTurn (taken : List String) : List String → List String
  | [] => []
  | base :: bases =>
    let id := allocate base taken
    id :: allocateInTurn (id :: taken) bases

variable {base : String} {fewer more taken bases : List String} {j k : Nat}

private theorem number_le_of_subset (within : fewer ⊆ more)
    (first : allocate base fewer = candidate base j)
    (second : allocate base more = candidate base k) : j ≤ k := by
  obtain ⟨n, -, below, allocated⟩ := exists_allocate_eq base fewer
  have same : n = j := candidate_injective base (allocated.symm.trans first)
  by_contra lower
  have early : candidate base k ∈ fewer := below k (by omega)
  have free : candidate base k ∉ more := second ▸ allocate_not_mem base more
  exact free (within early)

private theorem number_lt_of_taken (within : fewer ⊆ more) (occupied : allocate base fewer ∈ more)
    (first : allocate base fewer = candidate base j)
    (second : allocate base more = candidate base k) : j < k := by
  have atLeast : j ≤ k := number_le_of_subset within first second
  have different : j ≠ k := by
    rintro rfl
    have free := allocate_not_mem base more
    rw [second, ← first] at free
    exact free occupied
  omega

private theorem length_allocateInTurn (taken bases : List String) :
    (allocateInTurn taken bases).length = bases.length := by
  induction bases generalizing taken with
  | nil => rfl
  | cons base bases ih => rw [allocateInTurn, List.length_cons, List.length_cons, ih]

private theorem getElem?_allocateInTurn {i : Nat} (asked : bases[i]? = some base) :
    (allocateInTurn taken bases)[i]? =
      some (allocate base ((allocateInTurn taken bases).take i ++ taken)) := by
  induction bases generalizing taken i with
  | nil => cases asked
  | cons first bases ih =>
    cases i with
    | zero =>
      obtain rfl : first = base := by simpa using asked
      rfl
    | succ i =>
      rw [List.getElem?_cons_succ] at asked
      rw [allocateInTurn, List.getElem?_cons_succ, ih asked, List.take_succ_cons]
      -- The identifier that is allocated first stands at the other end of the list.
      congr 1
      apply allocate_congr
      intro id
      simp only [List.mem_append, List.mem_cons]
      tauto

private theorem not_mem_of_mem_allocateInTurn {id : String}
    (member : id ∈ allocateInTurn taken bases) : id ∉ taken := by
  obtain ⟨i, short, rfl⟩ := List.mem_iff_getElem.mp member
  have asked : i < bases.length := by rwa [length_allocateInTurn] at short
  have allocated : (allocateInTurn taken bases)[i]? = _ :=
    getElem?_allocateInTurn (List.getElem?_eq_getElem asked)
  rw [List.getElem?_eq_getElem short, Option.some_inj] at allocated
  rw [allocated]
  intro occupied
  exact allocate_not_mem _ _ (List.mem_append_right _ occupied)

private theorem nodup_allocateInTurn (taken bases : List String) :
    (allocateInTurn taken bases).Nodup := by
  induction bases generalizing taken with
  | nil => exact List.nodup_nil
  | cons base bases ih =>
    refine List.nodup_cons.mpr ⟨?_, ih _⟩
    intro again
    exact not_mem_of_mem_allocateInTurn again List.mem_cons_self

private theorem number_lt_of_lt {m n : Nat} (earlier : j < k) (first : bases[j]? = some base)
    (second : bases[k]? = some base)
    (gotFirst : (allocateInTurn taken bases)[j]? = some (candidate base m))
    (gotSecond : (allocateInTurn taken bases)[k]? = some (candidate base n)) : m < n := by
  have kept : (allocateInTurn taken bases).take j ++ taken ⊆
      (allocateInTurn taken bases).take k ++ taken :=
    List.append_subset.mpr
      ⟨List.subset_append_of_subset_left _ (List.take_subset_take_left _ earlier.le),
        List.subset_append_right _ _⟩
  have occupied : candidate base m ∈ (allocateInTurn taken bases).take k := by
    rw [← List.getElem?_take_of_lt earlier] at gotFirst
    exact List.mem_of_getElem? gotFirst
  rw [getElem?_allocateInTurn first, Option.some_inj] at gotFirst
  rw [getElem?_allocateInTurn second, Option.some_inj] at gotSecond
  rw [← gotFirst] at occupied
  exact number_lt_of_taken kept (List.mem_append_left taken occupied) gotFirst gotSecond

/-- The allocated number does not fall when more is taken. In a run in which every identifier is
taken once it is allocated, no identifier is allocated twice or was taken at the start, and the
identifiers for one base get higher and higher numbers. -/
theorem repeated_allocation_advances :
    (∀ base fewer more, fewer ⊆ more → ∀ j k, allocate base fewer = candidate base j →
      allocate base more = candidate base k → j ≤ k) ∧
    ∀ taken bases, (allocateInTurn taken bases).length = bases.length ∧
      (allocateInTurn taken bases).Nodup ∧ (∀ id ∈ allocateInTurn taken bases, id ∉ taken) ∧
      ∀ base (j k : Nat), j < k → bases[j]? = some base → bases[k]? = some base →
        ∃ m n, (allocateInTurn taken bases)[j]? = some (candidate base m) ∧
          (allocateInTurn taken bases)[k]? = some (candidate base n) ∧ m < n := by
  refine ⟨fun base fewer more within j k => number_le_of_subset within, ?_⟩
  intro taken bases
  refine ⟨length_allocateInTurn taken bases, nodup_allocateInTurn taken bases, ?_, ?_⟩
  · intro id member
    exact not_mem_of_mem_allocateInTurn member
  · intro base j k earlier first second
    have numbered : ∀ i : Nat, bases[i]? = some base →
        ∃ n, (allocateInTurn taken bases)[i]? = some (candidate base n) := by
      intro i asked
      obtain ⟨n, -, -, allocated⟩ :=
        exists_allocate_eq base ((allocateInTurn taken bases).take i ++ taken)
      exact ⟨n, by rw [getElem?_allocateInTurn asked, allocated]⟩
    obtain ⟨m, gotFirst⟩ := numbered j first
    obtain ⟨n, gotSecond⟩ := numbered k second
    exact ⟨m, n, gotFirst, gotSecond, number_lt_of_lt earlier first second gotFirst gotSecond⟩

/-- The identifiers of one base stand in the way of another one. -/
theorem repeated_allocation_advances_crossing :
    let fewer := ["a", "a_1"]
    let more := ["a_2", "a_1", "a"]
    let bases := ["a_1", "a", "a_1", "a", "a_1_1"]
    (fewer ⊆ more ∧ allocate "a" fewer = candidate "a" 2 ∧ allocate "a" more = candidate "a" 3 ∧
        2 ≤ 3) ∧
      allocateInTurn ["a"] bases = ["a_1", "a_2", "a_1_1", "a_3", "a_1_1_1"] ∧
      (allocateInTurn ["a"] bases).Nodup ∧
      ∃ m n, candidate "a" m = "a_2" ∧ candidate "a" n = "a_3" ∧ m < n := by
  intro fewer more bases
  obtain ⟨mono, run⟩ := repeated_allocation_advances
  obtain ⟨-, distinct, -, rising⟩ := run ["a"] bases
  obtain ⟨m, n, first, second, less⟩ := rising "a" 1 3 (by decide) rfl rfl
  have all : allocateInTurn ["a"] bases = ["a_1", "a_2", "a_1_1", "a_3", "a_1_1_1"] := by
    decide +kernel
  have within : fewer ⊆ more := by decide
  have number : allocate "a" fewer = candidate "a" 2 := by decide +kernel
  have third : allocate "a" more = candidate "a" 3 := by decide +kernel
  rw [all] at first second
  exact ⟨⟨within, number, third, mono "a" fewer more within 2 3 number third⟩, all, distinct, m, n,
    (Option.some.inj first).symm, (Option.some.inj second).symm, less⟩

end ProfileShell.Record
