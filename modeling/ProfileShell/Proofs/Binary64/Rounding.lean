import Mathlib.Algebra.Group.Nat.Defs
import ProfileShell.Binary64.Arithmetic

/-!
Rounding keeps order and keeps what needs no rounding.

From these two facts follow all bounds: a quotient that is at most the magnitude of a rank is
rounded to that rank or a lower one, so it stays finite.
-/

set_option autoImplicit false
set_option relaxedAutoImplicit false

namespace ProfileShell

private theorem div_le_divHalfEven (num den : Nat) : num / den ≤ divHalfEven num den := by
  unfold divHalfEven
  simp only
  split
  · exact Nat.le_refl _
  · split <;> omega

private theorem divHalfEven_le_succ (num den : Nat) : divHalfEven num den ≤ num / den + 1 := by
  unfold divHalfEven
  simp only
  split
  · omega
  · split <;> omega

private theorem divHalfEven_mono {a b : Nat} (den : Nat) (le : a ≤ b) :
    divHalfEven a den ≤ divHalfEven b den := by
  have quotients : a / den ≤ b / den := Nat.div_le_div_right le
  rcases Nat.lt_or_eq_of_le quotients with less | same
  · have upper := divHalfEven_le_succ a den
    have lower := div_le_divHalfEven b den
    omega
  · have first := Nat.div_add_mod a den
    have second := Nat.div_add_mod b den
    have remainders : a % den ≤ b % den := by
      rw [same] at first
      omega
    unfold divHalfEven
    simp only [same]
    split <;> split <;> (try split) <;> (try split) <;> omega

private theorem divHalfEven_mul {den : Nat} (positive : 0 < den) (q : Nat) :
    divHalfEven (q * den) den = q := by
  have quotient : q * den / den = q := Nat.mul_div_cancel q positive
  have remainder : q * den % den = 0 := Nat.mul_mod_left q den
  unfold divHalfEven
  simp only [quotient, remainder]
  rw [if_pos (by omega)]

/-- The number of binary digits of a quotient past the first fifty-three. -/
private def excess (num den : Nat) : Nat :=
  (num / den).log2 - 52

private theorem nearestRank_eq (num den : Nat) :
    nearestRank num den =
      excess num den * 2 ^ 52 + divHalfEven num (den * 2 ^ excess num den) := by
  unfold nearestRank excess
  simp only [Nat.shiftLeft_eq]

private theorem lt_of_excess (num den : Nat) (positive : 0 < den) :
    num < 2 ^ 53 * (den * 2 ^ excess num den) := by
  have digits : num / den < 2 ^ ((num / den).log2 + 1) := Nat.lt_log2_self
  have enough : 2 ^ ((num / den).log2 + 1) ≤ 2 ^ (53 + excess num den) := by
    apply Nat.pow_le_pow_right (by decide)
    unfold excess
    omega
  have quotient : num / den < 2 ^ 53 * 2 ^ excess num den := by
    rw [← Nat.pow_add]
    exact Nat.lt_of_lt_of_le digits enough
  have product := (Nat.div_lt_iff_lt_mul positive).mp quotient
  calc num < 2 ^ 53 * 2 ^ excess num den * den := product
    _ = 2 ^ 53 * (den * 2 ^ excess num den) := by
      rw [Nat.mul_assoc, Nat.mul_comm (2 ^ excess num den)]

private theorem le_of_excess (num den : Nat) (positive : 0 < den) (some : 0 < excess num den) :
    2 ^ 52 * (den * 2 ^ excess num den) ≤ num := by
  have nonzero : num / den ≠ 0 := by
    intro zero
    simp [excess, zero] at some
  have digits : 2 ^ (num / den).log2 ≤ num / den := Nat.log2_self_le nonzero
  have exponent : (num / den).log2 = 52 + excess num den := by
    unfold excess at some ⊢
    omega
  rw [exponent, Nat.pow_add] at digits
  have product := (Nat.le_div_iff_mul_le positive).mp digits
  calc 2 ^ 52 * (den * 2 ^ excess num den) = 2 ^ 52 * 2 ^ excess num den * den := by
        rw [Nat.mul_assoc, Nat.mul_comm (2 ^ excess num den)]
    _ ≤ num := product

private theorem nearestRank_le_of_excess (num den : Nat) (positive : 0 < den) :
    nearestRank num den ≤ (excess num den + 2) * 2 ^ 52 := by
  have scale : 0 < den * 2 ^ excess num den := Nat.mul_pos positive (Nat.two_pow_pos _)
  have rounded : divHalfEven num (den * 2 ^ excess num den) ≤ 2 ^ 53 := by
    have quotient := (Nat.div_lt_iff_lt_mul scale).mpr (lt_of_excess num den positive)
    have upper := divHalfEven_le_succ num (den * 2 ^ excess num den)
    omega
  rw [nearestRank_eq]
  omega

private theorem le_nearestRank_of_excess (num den : Nat) (positive : 0 < den)
    (some : 0 < excess num den) : (excess num den + 1) * 2 ^ 52 ≤ nearestRank num den := by
  have scale : 0 < den * 2 ^ excess num den := Nat.mul_pos positive (Nat.two_pow_pos _)
  have rounded : 2 ^ 52 ≤ divHalfEven num (den * 2 ^ excess num den) := by
    have quotient := (Nat.le_div_iff_mul_le scale).mpr (le_of_excess num den positive some)
    exact Nat.le_trans quotient (div_le_divHalfEven _ _)
  rw [nearestRank_eq]
  omega

/-- A greater quotient is not rounded to a lower rank. -/
theorem nearestRank_mono {a b den : Nat} (positive : 0 < den) (le : a ≤ b) :
    nearestRank a den ≤ nearestRank b den := by
  have digits : excess a den ≤ excess b den := by
    have quotients : a / den ≤ b / den := Nat.div_le_div_right le
    have logs : (a / den).log2 ≤ (b / den).log2 := by
      by_cases zero : a / den = 0
      · simp [zero]
      · have nonzero : b / den ≠ 0 :=
          Nat.ne_of_gt (Nat.lt_of_lt_of_le (Nat.pos_of_ne_zero zero) quotients)
        exact (Nat.le_log2 nonzero).mpr (Nat.le_trans (Nat.log2_self_le zero) quotients)
    unfold excess
    omega
  -- Ranks of quotients with different numbers of digits lie in separate blocks of 2^52; within a
  -- block the rounded quotients decide.
  rcases Nat.lt_or_eq_of_le digits with less | same
  · have upper := nearestRank_le_of_excess a den positive
    have lower := le_nearestRank_of_excess b den positive (by omega)
    have between : (excess a den + 2) * 2 ^ 52 ≤ (excess b den + 1) * 2 ^ 52 :=
      Nat.mul_le_mul_right _ (by omega)
    omega
  · rw [nearestRank_eq, nearestRank_eq, same]
    exact Nat.add_le_add_left (divHalfEven_mono _ le) _

theorem nearestRank_scaled (r : Rank) {k : Nat} (positive : 0 < k) :
    nearestRank (r.scaled * k) k = r.val := by
  have quotient : r.scaled * k / k = r.scaled := Nat.mul_div_cancel _ positive
  rw [nearestRank_eq]
  unfold excess
  rw [quotient]
  unfold Rank.scaled
  simp only [Nat.shiftLeft_eq, Nat.one_mul, Nat.shiftRight_eq_div_pow]
  split
  · rename_i subnormal
    have few : r.val.log2 - 52 = 0 := by
      by_cases zero : r.val = 0
      · simp [zero]
      · have := (Nat.log2_lt zero).mpr subnormal
        omega
    rw [few, Nat.pow_zero, Nat.mul_one, divHalfEven_mul positive]
    omega
  · rename_i normal
    have exponent : 0 < r.val / 2 ^ 52 := Nat.div_pos (by omega) (by decide)
    have rest : r.val % 2 ^ 52 < 2 ^ 52 := Nat.mod_lt _ (by decide)
    have parts := Nat.div_add_mod r.val (2 ^ 52)
    generalize r.val / 2 ^ 52 = e at *
    generalize r.val % 2 ^ 52 = m at *
    -- The magnitude has `e - 1` digits too many, all of them zeros.
    have digits : ((2 ^ 52 + m) * 2 ^ (e - 1)).log2 = 52 + (e - 1) := by
      have nonzero : (2 ^ 52 + m) * 2 ^ (e - 1) ≠ 0 :=
        Nat.mul_ne_zero (by omega) (Nat.pos_iff_ne_zero.mp (Nat.two_pow_pos _))
      refine (Nat.log2_eq_iff nonzero).mpr ⟨?_, ?_⟩
      · rw [Nat.pow_add]
        exact Nat.mul_le_mul_right _ (by omega)
      · rw [show 52 + (e - 1) + 1 = 53 + (e - 1) by omega, Nat.pow_add]
        exact Nat.mul_lt_mul_of_pos_right (by omega) (Nat.two_pow_pos _)
    rw [digits, show 52 + (e - 1) - 52 = e - 1 by omega]
    have regroup : (2 ^ 52 + m) * 2 ^ (e - 1) * k = (2 ^ 52 + m) * (k * 2 ^ (e - 1)) := by
      rw [Nat.mul_assoc, Nat.mul_comm (2 ^ (e - 1))]
    rw [regroup, divHalfEven_mul (Nat.mul_pos positive (Nat.two_pow_pos _))]
    have : (e - 1) * 2 ^ 52 + 2 ^ 52 = e * 2 ^ 52 := by
      rw [← Nat.succ_mul]
      congr 1
      omega
    omega

theorem Rank.scaled_mono {r q : Rank} (le : r.val ≤ q.val) : r.scaled ≤ q.scaled := by
  rcases Nat.lt_or_ge q.scaled r.scaled with less | atMost
  · have ranks := nearestRank_mono Nat.one_pos (Nat.le_of_lt less)
    have first := nearestRank_scaled r Nat.one_pos
    have second := nearestRank_scaled q Nat.one_pos
    rw [Nat.mul_one] at first second
    rw [first, second] at ranks
    have same : r = q := Fin.ext (Nat.le_antisymm le ranks)
    exact same ▸ Nat.le_refl _
  · exact atMost

namespace Binary64

theorem ofScaled_of_le {num den : Nat} (r : Rank) (positive : 0 < den)
    (le : num ≤ r.scaled * den) (negative : Bool) :
    ∃ q : Rank, ofScaled negative num den = .finite negative q ∧ q.val = nearestRank num den ∧
      q.scaled ≤ r.scaled := by
  have rank : nearestRank num den ≤ r.val := by
    rw [← nearestRank_scaled r positive]
    exact nearestRank_mono positive le
  have inside : nearestRank num den < 2047 <<< 52 := Nat.lt_of_le_of_lt rank r.isLt
  refine ⟨⟨nearestRank num den, inside⟩, ?_, rfl, Rank.scaled_mono rank⟩
  unfold ofScaled
  simp only [dif_pos inside]

end Binary64

end ProfileShell
