import ProfileShell.Binary64.Shortest
import ProfileShell.Proofs.Binary64.Bounds

/-!
The shortest digits of a magnitude read back to it.

A decimal stands for a number of multiples of 10^-1074, its units. Those of the shortest decimal are
nearest to the magnitude, and below the greatest magnitude they are at most halfway to it.
-/

set_option autoImplicit false
set_option relaxedAutoImplicit false

namespace ProfileShell.Binary64

/-- The number of multiples of 10^-1074 that a decimal stands for. -/
def Decimal.units (d : Decimal) : Nat :=
  d.significand * 10 ^ (d.exponent + 1074).toNat

/-- The decimal stands for a whole number of multiples of 10^-1074, to which the magnitude of the
rank is nearest. -/
structure Decimal.Writes (d : Decimal) (r : Rank) : Prop where
  exponent : -1074 ≤ d.exponent
  readsBack : readsBack r d.units = true

/-- The number of multiples of 10^-1074 in 2^-1074. -/
@[irreducible] def scale : Nat := Nat.pow 5 1074

theorem scale_pos : 0 < scale := by
  have positive : ∀ n, 0 < Nat.pow 5 n := fun n => Nat.pow_pos (by decide)
  unfold scale
  exact positive 1074

private theorem expansion_eq (r : Rank) : expansion r = r.scaled * scale := by
  unfold expansion scale
  rfl

theorem readsBack_iff (r : Rank) (n : Nat) :
    readsBack r n = true ↔ nearestRank n scale = r.val := by
  unfold readsBack scale
  exact beq_iff_eq

private theorem writes_of_readsBack {r : Rank} {significand places : Nat}
    (reads : readsBack r (significand * Nat.pow 10 places) = true) :
    Decimal.Writes ⟨significand, (places : Int) - 1074⟩ r where
  exponent := by
    simp only
    omega
  readsBack := by
    have back : ((places : Int) - 1074 + 1074).toNat = places := by omega
    unfold Decimal.units
    rw [back]
    exact reads

private theorem candidate_reads {reads : Nat → Bool} {preferLow : Bool} {low unit : Nat}
    {exponent : Int} {d : Decimal}
    (found : candidate (reads (low * unit)) (reads ((low + 1) * unit)) preferLow low exponent =
      some d) : d.exponent = exponent ∧ reads (d.significand * unit) = true := by
  unfold candidate at found
  cases below : reads (low * unit) <;> cases above : reads ((low + 1) * unit) <;>
    simp only [below, above, Option.some.injEq, reduceCtorEq] at found
  · subst found
    exact ⟨rfl, above⟩
  · subst found
    exact ⟨rfl, below⟩
  · subst found
    cases preferLow
    · exact ⟨rfl, above⟩
    · exact ⟨rfl, below⟩

private theorem withDigits_writes {tie : Tie} {r : Rank} {length digits : Nat} {d : Decimal}
    (found : withDigits tie r length digits = some d) : d.Writes r := by
  unfold withDigits at found
  obtain ⟨exponent, reads⟩ := candidate_reads found
  obtain ⟨significand, _⟩ := d
  subst exponent
  exact writes_of_readsBack reads

private theorem units_whole (n : Nat) : Decimal.units ⟨n, -1074⟩ = n := by
  have none : (-1074 + 1074 : Int).toNat = 0 := by decide
  unfold Decimal.units
  simp only
  rw [none, Nat.pow_zero, Nat.mul_one]

private theorem readsBack_expansion (r : Rank) : readsBack r (expansion r) = true := by
  rw [readsBack_iff, expansion_eq]
  exact nearestRank_scaled r scale_pos

theorem shortest_writes (tie : Tie) (r : Rank) : (shortest tie r).Writes r := by
  unfold shortest
  simp only
  cases found : (List.range' 1 17).findSome?
      (withDigits tie r (Nat.toDigits 10 (expansion r)).length) with
  | some d =>
    obtain ⟨digits, -, tried⟩ := List.exists_of_findSome?_eq_some found
    exact withDigits_writes tried
  | none =>
    refine ⟨Int.le_refl _, ?_⟩
    rw [Option.getD_none, units_whole, readsBack_expansion]

theorem Decimal.Writes.significand_ne_zero {d : Decimal} {r : Rank} (writes : d.Writes r)
    (nonzero : r.val ≠ 0) : d.significand ≠ 0 := by
  intro zero
  have rank := (readsBack_iff r _).mp writes.readsBack
  unfold Decimal.units at rank
  rw [zero, Nat.zero_mul] at rank
  have none : nearestRank 0 scale = 0 := by
    have exact := nearestRank_scaled .zero scale_pos
    have magnitude : Rank.zero.scaled = 0 := rfl
    rw [magnitude, Nat.zero_mul] at exact
    exact exact
  exact nonzero (rank.symm.trans none)

@[irreducible] def lastMidpoint : Nat :=
  (Rank.greatest.scaled + Rank.scaled ⟨2047 <<< 52 - 2, by decide⟩) * scale / 2

private theorem nearestRank_past_lastMidpoint :
    nearestRank (lastMidpoint + 1) scale = Rank.greatest.val := by
  decide +kernel

/-- Below the greatest magnitude the shortest digits do not pass the last midpoint. -/
theorem Decimal.Writes.units_le_lastMidpoint {d : Decimal} {r : Rank} (writes : d.Writes r)
    (less : r.val < Rank.greatest.val) : d.units ≤ lastMidpoint := by
  rcases Nat.lt_or_ge lastMidpoint d.units with past | atMost
  · have rank : nearestRank (lastMidpoint + 1) scale ≤ nearestRank d.units scale :=
      nearestRank_mono scale_pos (Nat.succ_le_of_lt past)
    have written := (readsBack_iff r _).mp writes.readsBack
    rw [nearestRank_past_lastMidpoint, written] at rank
    exact absurd rank (Nat.not_le_of_lt less)
  · exact atMost

end ProfileShell.Binary64
