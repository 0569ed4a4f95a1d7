import ProfileShell.Proofs.Binary64.Bounds

/-!
Products and quotients that stay finite.

A product of finite doubles is finite if one of greater magnitudes is; a quotient by a double of
magnitude one or more is finite if the dividend is.
-/

set_option autoImplicit false
set_option relaxedAutoImplicit false

namespace ProfileShell.Binary64

def AtMost (x y : Binary64) : Prop :=
  ∃ s t a b, x = .finite s a ∧ y = .finite t b ∧ a.val ≤ b.val

private theorem isFinite_ofScaled (negative : Bool) (num den : Nat) :
    (ofScaled negative num den).isFinite = true ↔ nearestRank num den < 2047 <<< 52 := by
  unfold ofScaled
  simp only
  split
  · rename_i inside
    exact ⟨fun _ => inside, fun _ => rfl⟩
  · rename_i outside
    exact ⟨fun impossible => (by cases impossible), fun inside => absurd inside outside⟩

private theorem ofScaled_of_isFinite {negative : Bool} {num den : Nat}
    (finite : (ofScaled negative num den).isFinite = true) :
    ∃ r : Rank, ofScaled negative num den = .finite negative r ∧ r.val = nearestRank num den := by
  have inside := (isFinite_ofScaled negative num den).mp finite
  refine ⟨⟨nearestRank num den, inside⟩, ?_, rfl⟩
  unfold ofScaled
  simp only [dif_pos inside]

theorem atMost_ofScaled {s t : Bool} {a b den : Nat} (positive : 0 < den) (le : a ≤ b)
    (finite : (ofScaled t b den).isFinite = true) :
    AtMost (ofScaled s a den) (ofScaled t b den) := by
  have ranks := nearestRank_mono positive le
  have inside := (isFinite_ofScaled t b den).mp finite
  have smaller : (ofScaled s a den).isFinite = true :=
    (isFinite_ofScaled s a den).mpr (Nat.lt_of_le_of_lt ranks inside)
  obtain ⟨p, first, pVal⟩ := ofScaled_of_isFinite smaller
  obtain ⟨q, second, qVal⟩ := ofScaled_of_isFinite finite
  exact ⟨s, t, p, q, first, second, by rw [pVal, qVal]; exact ranks⟩

theorem AtMost.isFinite {x y : Binary64} (atMost : AtMost x y) : x.isFinite = true := by
  obtain ⟨s, t, a, b, rfl, rfl, -⟩ := atMost
  rfl

variable {x y z w : Binary64}

private theorem finite_mul (s t : Bool) (a b : Rank) :
    Binary64.finite s a * .finite t b = ofScaled (s != t) (a.scaled * b.scaled) (1 <<< 1074) := by
  change mul (.finite s a) (.finite t b) = _
  unfold mul
  rfl

theorem isFinite_mul_of_atMost (first : AtMost x y) (second : AtMost z w)
    (finite : (y * w).isFinite = true) : (x * z).isFinite = true := by
  obtain ⟨s, t, a, b, rfl, rfl, ab⟩ := first
  obtain ⟨s', t', c, d, rfl, rfl, cd⟩ := second
  rw [finite_mul] at finite ⊢
  have positive : 0 < 1 <<< 1074 := by decide +kernel
  have magnitudes : a.scaled * c.scaled ≤ b.scaled * d.scaled :=
    Nat.mul_le_mul (Rank.scaled_mono ab) (Rank.scaled_mono cd)
  exact (atMost_ofScaled positive magnitudes finite).isFinite

def one : Rank := Rank.twoPow 0 (by decide)

private theorem scaled_one : one.scaled = 2 ^ 1074 := by
  unfold one
  rw [Rank.scaled_twoPow, Nat.add_zero]

private theorem shiftLeft_le_mul {m a b : Nat} (le : 2 ^ m ≤ b) : a <<< m ≤ a * b := by
  rw [Nat.shiftLeft_eq]
  exact Nat.mul_le_mul_left a le

theorem isFinite_div (finite : x.isFinite = true) {t : Bool} {b : Rank} (le : one.val ≤ b.val) :
    (x / .finite t b).isFinite = true := by
  obtain ⟨s, a, rfl⟩ := (isFinite_iff x).mp finite
  have nonzero : b.val ≠ 0 := by
    have positive : 0 < one.val := by decide
    omega
  have quotient : Binary64.finite s a / .finite t b =
      ofScaled (s != t) (a.scaled <<< 1074) b.scaled := by
    change div (.finite s a) (.finite t b) = _
    unfold div
    simp only [nonzero, if_false]
  have divisor : one.scaled ≤ b.scaled := Rank.scaled_mono le
  have dividend : a.scaled <<< 1074 ≤ a.scaled * b.scaled := by
    rw [scaled_one] at divisor
    exact shiftLeft_le_mul divisor
  have positive : 0 < b.scaled :=
    Nat.lt_of_lt_of_le (Rank.scaled_twoPow_pos 0 (by decide)) divisor
  obtain ⟨q, rounded, -, -⟩ := ofScaled_of_le a positive dividend (s != t)
  rw [quotient, rounded]
  rfl

end ProfileShell.Binary64
