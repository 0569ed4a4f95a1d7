import Mathlib.Algebra.Group.Int.Defs
import ProfileShell.Clock
import ProfileShell.Proofs.Binary64.Rounding

/-!
Sums, differences and clock readings that stay finite.

A double is within `m` if its magnitude is at most `2 ^ m`. Sums and differences of doubles within
`m` are within `m + 1`, and next to any finite double a double within 66 is too small to lead past
the last magnitude.
-/

set_option autoImplicit false
set_option relaxedAutoImplicit false

namespace ProfileShell

def Rank.twoPow (m : Nat) (small : m < 1024) : Rank :=
  ⟨(1023 + m) * 2 ^ 52, by
    rw [Nat.shiftLeft_eq]
    exact Nat.mul_lt_mul_of_pos_right (by omega) (by decide)⟩

theorem Rank.scaled_twoPow (m : Nat) (small : m < 1024) :
    (Rank.twoPow m small).scaled = 2 ^ (1074 + m) := by
  unfold Rank.scaled Rank.twoPow
  simp only [Nat.shiftLeft_eq, Nat.one_mul, Nat.shiftRight_eq_div_pow]
  rw [if_neg (by omega), Nat.mul_mod_left, Nat.mul_div_cancel _ (by decide), Nat.add_zero,
    ← Nat.pow_add]
  congr 1
  omega

theorem Rank.scaled_twoPow_pos (m : Nat) (small : m < 1024) :
    0 < (Rank.twoPow m small).scaled := by
  rw [Rank.scaled_twoPow]
  exact Nat.two_pow_pos (1074 + m)

namespace Binary64

theorem isFinite_iff (x : Binary64) :
    x.isFinite = true ↔ ∃ negative r, x = .finite negative r := by
  cases x <;> simp [isFinite]

/-- A finite double whose magnitude is at most a power of two. -/
def Within (m : Nat) (x : Binary64) : Prop :=
  ∃ negative r, x = .finite negative r ∧ r.scaled ≤ 2 ^ (1074 + m)

variable {m : Nat} {x y : Binary64}

theorem Within.isFinite (within : Within m x) : x.isFinite = true := by
  obtain ⟨negative, r, rfl, -⟩ := within
  rfl

private theorem within_ofScaled (small : m < 1024) {num den : Nat} (positive : 0 < den)
    (le : num ≤ 2 ^ (1074 + m) * den) (negative : Bool) :
    Within m (ofScaled negative num den) := by
  rw [← Rank.scaled_twoPow m small] at le
  obtain ⟨q, rounded, -, atMost⟩ := ofScaled_of_le _ positive le negative
  rw [Rank.scaled_twoPow] at atMost
  exact ⟨negative, q, rounded, atMost⟩

private theorem Within.neg (within : Within m x) : Within m x.neg := by
  obtain ⟨negative, r, rfl, le⟩ := within
  exact ⟨!negative, r, rfl, le⟩

private theorem natAbs_scaledInt_add (s t : Bool) (a b : Rank) :
    (scaledInt s a + scaledInt t b).natAbs ≤ a.scaled + b.scaled := by
  unfold scaledInt
  cases s <;> cases t <;> simp only [Bool.false_eq_true, if_false, if_true] <;> omega

private theorem finite_add (s t : Bool) (a b : Rank) :
    ∃ negative num, num ≤ a.scaled + b.scaled ∧
      ((Binary64.finite s a) + .finite t b = .finite negative .zero ∨
        (Binary64.finite s a) + .finite t b = ofScaled negative num 1) := by
  change ∃ negative num, num ≤ a.scaled + b.scaled ∧
    (add (.finite s a) (.finite t b) = .finite negative .zero ∨
      add (.finite s a) (.finite t b) = ofScaled negative num 1)
  unfold add
  by_cases zero : scaledInt s a + scaledInt t b = 0
  · exact ⟨s && t, 0, Nat.zero_le _, Or.inl (by simp only [zero, if_true])⟩
  · refine ⟨scaledInt s a + scaledInt t b < 0, _, natAbs_scaledInt_add s t a b, Or.inr ?_⟩
    simp only [zero, if_false]

private theorem Within.add (first : Within m x) (second : Within m y) (small : m + 1 < 1024) :
    Within (m + 1) (x + y) := by
  obtain ⟨s, a, rfl, aLe⟩ := first
  obtain ⟨t, b, rfl, bLe⟩ := second
  obtain ⟨negative, num, le, zero | rounded⟩ := finite_add s t a b
  · exact ⟨negative, .zero, zero, Nat.zero_le _⟩
  · rw [rounded]
    refine within_ofScaled small Nat.one_pos ?_ negative
    have double : 2 ^ (1074 + (m + 1)) = 2 ^ (1074 + m) * 2 := by
      rw [← Nat.add_assoc, Nat.pow_succ]
    omega

theorem Within.sub (first : Within m x) (second : Within m y) (small : m + 1 < 1024) :
    Within (m + 1) (x - y) :=
  first.add second.neg small

def Rank.greatest : Rank := ⟨2047 <<< 52 - 1, by decide⟩

private theorem greatest_absorbs :
    nearestRank (Rank.greatest.scaled + 2 ^ (1074 + 66)) 1 < 2047 <<< 52 := by
  decide +kernel

/-- A finite double stays finite when one within 66 is added. -/
theorem isFinite_add (finite : x.isFinite = true) (within : Within 66 y) :
    (x + y).isFinite = true := by
  obtain ⟨s, a, rfl⟩ := (isFinite_iff x).mp finite
  obtain ⟨t, b, rfl, le⟩ := within
  obtain ⟨negative, num, atMost, zero | rounded⟩ := finite_add s t a b
  · rw [zero]
    rfl
  · have greatest : a.scaled ≤ Rank.greatest.scaled :=
      Rank.scaled_mono (Nat.le_sub_one_of_lt a.isLt)
    -- What is added is too small to be rounded past the greatest magnitude.
    have rank := nearestRank_mono Nat.one_pos
      (show num ≤ Rank.greatest.scaled + 2 ^ (1074 + 66) by omega)
    have inside := Nat.lt_of_le_of_lt rank greatest_absorbs
    rw [rounded]
    unfold ofScaled
    simp only [dif_pos inside, Binary64.isFinite]

private theorem shiftLeft_le {n den : Nat} (le : n ≤ 2 ^ m * den) (places : Nat) :
    n <<< places ≤ 2 ^ (places + m) * den := by
  rw [Nat.shiftLeft_eq, Nat.pow_add, Nat.mul_assoc, Nat.mul_comm]
  exact Nat.mul_le_mul_left _ le

theorem within_ofInt (small : m < 1024) {i : Int} (le : i.natAbs ≤ 2 ^ m) : Within m (ofInt i) := by
  refine within_ofScaled small Nat.one_pos (shiftLeft_le ?_ 1074) _
  rw [Nat.mul_one]
  exact le

private theorem within_ofQuotient (small : m < 1024) {num den : Nat} (positive : 0 < den)
    (le : num ≤ 2 ^ m * den) : Within m (ofQuotient num den) :=
  within_ofScaled small positive (shiftLeft_le le 1074) _

end Binary64

namespace Clock

open Binary64 (Within)

/-- The readings of the clock are below `2 ^ 64` seconds. -/
def IsTimely (c : Clock) : Prop :=
  ∀ i, c.reading i < 2 ^ 64 * 10 ^ 9

private theorem within_seconds {nanoseconds : Int} (timely : nanoseconds < 2 ^ 64 * 10 ^ 9) :
    Within 65 (seconds nanoseconds) := by
  unfold seconds
  split
  · exact ⟨false, .zero, rfl, Nat.zero_le _⟩
  · simp only
    have whole : Within 64 (.ofInt (nanoseconds.toNat / 1000000000 : Nat)) := by
      refine Binary64.within_ofInt (by decide) ?_
      omega
    have rest : Within 64 (.ofQuotient (nanoseconds.toNat % 1000000000) 1000000000) :=
      Binary64.within_ofQuotient (by decide) (by decide) (by omega)
    exact whole.add rest (by decide)

theorem IsTimely.within_now {c : Clock} (timely : c.IsTimely) : Within 65 c.now :=
  within_seconds (timely c.taken)

theorem IsTimely.tick {c : Clock} (timely : c.IsTimely) : c.tick.IsTimely := timely

end Clock

end ProfileShell
