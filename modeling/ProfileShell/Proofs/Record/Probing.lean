import Mathlib.Data.Finset.Card
import Mathlib.Data.Finset.Dedup
import ProfileShell.Proofs.Record.Allocation

/-!
The search for a free candidate ends at the first one.

Whatever test tells which identifiers are taken: if it leaves a candidate free whose number has 64
bits, the search ends with the first free one, and else it ends without a candidate. Where the taken
identifiers are a finite set, the number of that candidate is at most the size of the set, since the
earlier candidates are different members of it; for every set that a memory can hold the search
finds it.
-/

set_option autoImplicit false
set_option relaxedAutoImplicit false

namespace ProfileShell.Record

structure IsFirstFree (taken : String → Bool) (base : String) (n : Nat) : Prop where
  free : taken (candidate base n) = false
  before : ∀ i, i < n → taken (candidate base i) = true

variable {taken : String → Bool} {base : String} {n : Nat} {k : UInt64}

private theorem IsFirstFree.le_of_free {m : Nat} (first : IsFirstFree taken base n)
    (free : taken (candidate base m) = false) : n ≤ m := by
  by_contra later
  have full := first.before m (by omega)
  simp [free] at full

private theorem IsFirstFree.unique {m : Nat} (first : IsFirstFree taken base n)
    (other : IsFirstFree taken base m) : n = m :=
  Nat.le_antisymm (first.le_of_free other.free) (other.le_of_free first.free)

private theorem exists_isFirstFree (h : ∃ n, taken (candidate base n) = false) :
    ∃ n, IsFirstFree taken base n := by
  refine ⟨Nat.find h, Nat.find_spec h, fun i less => ?_⟩
  simpa using Nat.find_min h less

private theorem IsFirstFree.le_card {ids : List String} (first : IsFirstFree ids.contains base n) :
    n ≤ ids.toFinset.card := by
  have members : (Finset.range n).image (candidate base) ⊆ ids.toFinset := by
    intro id member
    obtain ⟨i, below, rfl⟩ := Finset.mem_image.mp member
    have full := first.before i (Finset.mem_range.mp below)
    exact List.mem_toFinset.mpr (by simpa using full)
  have few := Finset.card_le_card members
  rwa [Finset.card_image_of_injective _ (candidate_injective base), Finset.card_range] at few

private theorem allocate_eq_of_isFirstFree {ids : List String}
    (first : IsFirstFree ids.contains base n) : allocate base ids = candidate base n := by
  have before : ∀ i, i < n → candidate base i ∈ ids := by simpa using first.before
  exact allocate_eq (by simpa using first.free) before

private theorem candidate_of_pos (positive : 0 < n) :
    candidate base n = base ++ "_" ++ toString n := by
  obtain ⟨m, rfl⟩ := Nat.exists_eq_add_of_le' positive
  rfl

private theorem candidate_toNat (positive : 0 < k.toNat) :
    candidate base k.toNat = base ++ "_" ++ toString k :=
  candidate_of_pos positive

private theorem numberFrom_of_free (positive : 0 < k.toNat)
    (free : taken (candidate base k.toNat) = false) :
    numberFrom taken base k = some (candidate base k.toNat) := by
  rw [candidate_toNat positive] at free ⊢
  rw [numberFrom]
  simp [free]

private theorem numberFrom_of_taken (positive : 0 < k.toNat)
    (full : taken (candidate base k.toNat) = true) :
    numberFrom taken base k =
      if k.toNat + 1 < UInt64.size then numberFrom taken base (k + 1) else none := by
  rw [candidate_toNat positive] at full
  rw [numberFrom]
  simp [full]

private theorem numberFrom_eq_some (fits : n < UInt64.size)
    (free : taken (candidate base n) = false)
    (before : ∀ i, i < n → taken (candidate base i) = true) (positive : 0 < k.toNat)
    (start : k.toNat ≤ n) : numberFrom taken base k = some (candidate base n) := by
  -- The induction is on the numbers between the count and the free one.
  induction distance : n - k.toNat generalizing k with
  | zero =>
    obtain rfl : k.toNat = n := by omega
    exact numberFrom_of_free positive free
  | succ d ih =>
    have more : k.toNat + 1 < UInt64.size := by omega
    have next := toNat_add_one more
    rw [numberFrom_of_taken positive (before _ (by omega)), if_pos more]
    exact ih (by omega) (by omega) (by omega)

private theorem numberFrom_eq_none
    (full : ∀ i, i < UInt64.size → taken (candidate base i) = true) (positive : 0 < k.toNat) :
    numberFrom taken base k = none := by
  induction left : UInt64.size - k.toNat generalizing k with
  | zero =>
    have := k.toNat_lt_size
    omega
  | succ d ih =>
    rw [numberFrom_of_taken positive (full _ k.toNat_lt_size)]
    split
    · rename_i more
      have next := toNat_add_one more
      exact ih (by omega) (by omega)
    · rfl

private theorem allocateWith_eq_some (first : IsFirstFree taken base n) (fits : n < UInt64.size) :
    allocateWith taken base = some (candidate base n) := by
  cases n with
  | zero =>
    have free : taken base = false := first.free
    rw [allocateWith, free]
    rfl
  | succ m =>
    have full : taken base = true := first.before 0 (Nat.succ_pos m)
    rw [allocateWith, full, if_pos rfl]
    exact numberFrom_eq_some fits first.free first.before (by decide)
      (Nat.succ_le_succ (Nat.zero_le m))

private theorem allocateWith_eq_none
    (full : ∀ n, n < UInt64.size → taken (candidate base n) = true) :
    allocateWith taken base = none := by
  have wanted : taken base = true := full 0 (by decide)
  rw [allocateWith, wanted, if_pos rfl]
  exact numberFrom_eq_none full (by decide)

private theorem utf8ByteSize_ofList {cs : List Char} (digits : ∀ c ∈ cs, c.isDigit = true) :
    (String.ofList cs).utf8ByteSize = cs.length := by
  induction cs with
  | nil => rfl
  | cons c cs ih =>
    have digit := digits c List.mem_cons_self
    have short : c.utf8Size = 1 := by
      simp only [Char.isDigit, Bool.and_eq_true, decide_eq_true_eq] at digit
      exact Char.utf8Size_eq_one_iff.mpr (UInt32.le_trans digit.2 (by decide))
    have rest := ih fun d member => digits d (List.mem_cons_of_mem c member)
    rw [String.ofList_cons, String.utf8ByteSize_append, String.utf8ByteSize_singleton, short, rest,
      List.length_cons]
    omega

private theorem utf8ByteSize_numbered (base : String) (n : Nat) :
    (base ++ "_" ++ toString n).utf8ByteSize =
      base.utf8ByteSize + 1 + (Nat.toDigits 10 n).length := by
  have digits : ∀ c ∈ Nat.toDigits 10 n, c.isDigit = true := fun c member =>
    Nat.isDigit_of_mem_toDigits (by decide) (by decide) member
  have underscore : "_".utf8ByteSize = 1 := by decide
  rw [String.utf8ByteSize_append, String.utf8ByteSize_append, underscore,
    Nat.toString_eq_ofList_toDigits, utf8ByteSize_ofList digits]

private theorem utf8ByteSize_candidate (base : String) (positive : 0 < n) :
    (candidate base n).utf8ByteSize = base.utf8ByteSize + 1 + (Nat.toDigits 10 n).length := by
  rw [candidate_of_pos positive, utf8ByteSize_numbered]

private theorem length_toDigits_le (fits : n < UInt64.size) : (Nat.toDigits 10 n).length ≤ 20 :=
  (Nat.length_toDigits_le_iff (by decide) (by decide)).mpr (Nat.lt_trans fits (by decide))

private theorem utf8ByteSize_candidate_le (base : String) (fits : n < UInt64.size) :
    (candidate base n).utf8ByteSize ≤ base.utf8ByteSize + 21 := by
  rcases Nat.eq_zero_or_pos n with rfl | positive
  · exact Nat.le_add_right _ _
  · have digits := length_toDigits_le fits
    rw [utf8ByteSize_candidate base positive]
    omega

private theorem utf8ByteSize_candidate_last (base : String) :
    (candidate base (UInt64.size - 1)).utf8ByteSize = base.utf8ByteSize + 21 := by
  have digits : (Nat.toDigits 10 (UInt64.size - 1)).length = 20 := by decide +kernel
  rw [utf8ByteSize_candidate base (by decide), digits]

/-- An identifier of a given length is found if a number of 64 bits makes the wanted one as long,
and otherwise the count overflows. -/
theorem allocateWith_of_length (base : String) (bytes : Nat) :
    allocateWith (fun id => id.utf8ByteSize < bytes) base =
      if bytes ≤ base.utf8ByteSize + 21 then some (allocateOfSize base bytes) else none := by
  by_cases short : bytes ≤ base.utf8ByteSize + 21
  · have free : decide ((candidate base (UInt64.size - 1)).utf8ByteSize < bytes) = false := by
      rw [utf8ByteSize_candidate_last]
      exact decide_eq_false (by omega)
    obtain ⟨n, first⟩ : ∃ n, IsFirstFree (fun id => id.utf8ByteSize < bytes) base n :=
      exists_isFirstFree ⟨_, free⟩
    have early : n ≤ UInt64.size - 1 := first.le_of_free free
    have fits : n < UInt64.size := Nat.lt_of_le_of_lt early (by decide)
    rw [if_pos short, allocateOfSize, allocateWith_eq_some first fits]
    rfl
  · have full : ∀ n, n < UInt64.size →
        decide ((candidate base n).utf8ByteSize < bytes) = true := by
      intro n fits
      have size := utf8ByteSize_candidate_le base fits
      exact decide_eq_true (by omega)
    rw [if_neg short]
    exact allocateWith_eq_none full

/-- The wanted identifier is allocated if it is free, and else its first free number, which is at
most the size of the set. Against any test the search ends with the first free candidate, if one of
those that 64 bits can number is free, and else without a candidate. -/
theorem allocation_finds_first_free (base : String) :
    (∀ ids : List String,
      (base ∉ ids → allocate base ids = base) ∧
        (base ∈ ids → ∃ k, 1 ≤ k ∧ k ≤ ids.toFinset.card ∧
          allocate base ids = base ++ "_" ++ toString k ∧
          base ++ "_" ++ toString k ∉ ids ∧
          ∀ i, 1 ≤ i → i < k → base ++ "_" ++ toString i ∈ ids) ∧
        (ids.toFinset.card < UInt64.size →
          allocateWith ids.contains base = some (allocate base ids))) ∧
      ∀ taken : String → Bool,
        ((∃ n, n < UInt64.size ∧ taken (candidate base n) = false) →
          ∃ n, n < UInt64.size ∧ taken (candidate base n) = false ∧
            (∀ i, i < n → taken (candidate base i) = true) ∧
            allocateWith taken base = some (candidate base n)) ∧
        ((∀ n, n < UInt64.size → taken (candidate base n) = true) →
          allocateWith taken base = none) := by
  refine ⟨fun ids => ?_, fun taken => ⟨?_, allocateWith_eq_none⟩⟩
  · obtain ⟨m, -, absent⟩ := exists_free base ids
    have free : ids.contains (candidate base m) = false := by simpa using absent
    obtain ⟨n, first⟩ := exists_isFirstFree ⟨m, free⟩
    have allocated := allocate_eq_of_isFirstFree first
    have few := first.le_card
    refine ⟨fun absent => ?_, fun member => ?_, fun fits => ?_⟩
    · have zero : IsFirstFree ids.contains base 0 := ⟨by simpa [candidate] using absent, by simp⟩
      rw [allocated, first.unique zero, candidate]
    · rcases Nat.eq_zero_or_pos n with rfl | positive
      · have absent : base ∉ ids := by simpa [candidate] using first.free
        exact absurd member absent
      · have numbered : candidate base n = base ++ "_" ++ toString n := candidate_of_pos positive
        refine ⟨n, positive, few, allocated.trans numbered, ?_, fun i counted less => ?_⟩
        · rw [← numbered]
          simpa using first.free
        · rw [← candidate_of_pos counted]
          simpa using first.before i less
    · rw [allocated]
      exact allocateWith_eq_some first (by omega)
  · rintro ⟨m, fits, free⟩
    obtain ⟨n, first⟩ := exists_isFirstFree ⟨m, free⟩
    have numbered : n < UInt64.size := Nat.lt_of_le_of_lt (first.le_of_free free) fits
    exact ⟨n, numbered, first.free, first.before, allocateWith_eq_some first numbered⟩

/-- The number after the one that is taken is allocated, wherever the identifiers stand. A test of
the length ends at the first identifier that is longer, and a test that leaves none free without
one. -/
theorem allocation_finds_first_free_a :
    let ids := ["a_1", "a_1_1", "a"]
    let short : String → Bool := fun id => id.utf8ByteSize < 4
    let any : String → Bool := fun _ => true
    ("a" ∈ ids ∧ allocate "a" ids = "a_2" ∧ ids.toFinset.card < UInt64.size ∧
        allocateWith ids.contains "a" = some "a_2") ∧
      (short (candidate "a" 10) = false ∧ allocateWith short "a" = some "a_10") ∧
      (∀ n, n < UInt64.size → any (candidate "a" n) = true) ∧ allocateWith any "a" = none := by
  intro ids short any
  obtain ⟨finite, general⟩ := allocation_finds_first_free "a"
  have member : "a" ∈ ids := by decide
  have few : ids.toFinset.card < UInt64.size := Nat.lt_of_le_of_lt ids.toFinset_card_le (by decide)
  obtain ⟨k, positive, -, allocated, fresh, before⟩ := (finite ids).2.1 member
  have notOne : k ≠ 1 := by
    rintro rfl
    exact fresh (by decide +kernel)
  have notMore : ¬2 < k := by
    intro more
    exact absurd (before 2 (by decide) more) (by decide +kernel)
  have number : k = 2 := by omega
  have answer : allocate "a" ids = "a_2" := by
    rw [allocated, number]
    decide +kernel
  have first : IsFirstFree short "a" 10 := ⟨by decide +kernel, by decide +kernel⟩
  obtain ⟨n, -, free, full, found⟩ := (general short).1 ⟨10, by decide, first.free⟩
  have place : n = 10 := IsFirstFree.unique ⟨free, full⟩ first
  refine ⟨⟨member, answer, few, ?_⟩, ⟨first.free, ?_⟩, fun _ _ => rfl, ?_⟩
  · rw [(finite ids).2.2 few, answer]
  · rw [found, place]
    decide +kernel
  · exact (general any).2 fun _ _ => rfl

/-- Where all identifiers shorter than thirty bytes are taken a candidate is free, but none that 64
bits can number. A count that starts again after its last number does not come to it either. -/
theorem long_candidate_not_found :
    let taken : String → Bool := fun id => id.utf8ByteSize < 30
    taken (candidate "a" 1000000000000000000000000000) = false ∧ allocateWith taken "a" = none ∧
      ∀ k : UInt64, taken ("a" ++ "_" ++ toString k) = true := by
  intro taken
  have letter : "a".utf8ByteSize = 1 := by decide
  refine ⟨?_, ?_, fun k => ?_⟩
  · have positive : 0 < 1000000000000000000000000000 := by decide
    have digits : (Nat.toDigits 10 1000000000000000000000000000).length = 28 := by decide +kernel
    have size := utf8ByteSize_candidate "a" positive
    exact decide_eq_false (by omega)
  · have long : ¬30 ≤ "a".utf8ByteSize + 21 := by omega
    exact (allocateWith_of_length "a" 30).trans (if_neg long)
  · have digits := length_toDigits_le k.toNat_lt_size
    have size : ("a" ++ "_" ++ toString k).utf8ByteSize = _ := utf8ByteSize_numbered "a" k.toNat
    exact decide_eq_true (by omega)

end ProfileShell.Record
