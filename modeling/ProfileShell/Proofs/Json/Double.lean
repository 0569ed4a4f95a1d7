import ProfileShell.Json.Printer
import ProfileShell.Proofs.Json.Numeral

/-!
Doubles in JSON text are read back as finite doubles.

Every finite double is written as a number that is not whole, so it is not mistaken for a whole
number, and that is no greater than what can be read. The digits of the greatest magnitude pass the
midpoint below it; that magnitude is read back by computation.
-/

set_option autoImplicit false
set_option relaxedAutoImplicit false

namespace ProfileShell.Json

open Binary64

structure Leading (cs : List Char) : Prop where
  digits : Digits cs
  first : ∃ d ds, cs = d :: ds ∧ d ≠ '0'

theorem leading_toDigits {n : Nat} (nonzero : n ≠ 0) : Leading (Nat.toDigits 10 n) := by
  refine ⟨digits_toDigits n, ?_⟩
  induction n using Nat.strongRecOn with
  | _ n ih =>
    rcases Nat.lt_or_ge n 10 with small | great
    · rw [Nat.toDigits_of_lt_base small]
      refine ⟨_, [], rfl, ?_⟩
      have digits : ∀ k < 10, k ≠ 0 → Nat.digitChar k ≠ '0' := by decide
      exact digits n small nonzero
    · obtain ⟨d, ds, parts, first⟩ := ih (n / 10) (by omega) (by omega)
      rw [Nat.toDigits_of_base_le (by decide) great, parts]
      exact ⟨d, _, List.cons_append, first⟩

private theorem trimZeros_append (digits : List Char) :
    ∃ zeros, digits = trimZeros digits ++ List.replicate zeros '0' := by
  have zeros : ∀ c ∈ (digits.reverse.takeWhile (· == '0')).reverse, c = '0' := by
    intro c member
    have all := List.all_takeWhile (p := (· == '0')) (l := digits.reverse)
    exact beq_iff_eq.mp (List.all_eq_true.mp all c (List.mem_reverse.mp member))
  refine ⟨_, Eq.trans ?_ (congrArg (trimZeros digits ++ ·) (List.eq_replicate_of_mem zeros))⟩
  unfold trimZeros
  rw [← List.reverse_append, List.takeWhile_append_dropWhile, List.reverse_reverse]

theorem Leading.trimZeros {cs : List Char} (leading : Leading cs) : Leading (trimZeros cs) := by
  obtain ⟨zeros, parts⟩ := trimZeros_append cs
  obtain ⟨d, ds, whole, nonzero⟩ := leading.first
  refine ⟨fun c member => leading.digits c ?_, ?_⟩
  · rw [parts]
    exact List.mem_append_left _ member
  · cases trimmed : Binary64.trimZeros cs with
    | nil =>
      rw [trimmed, whole, List.nil_append] at parts
      have zero := List.eq_of_mem_replicate (parts ▸ List.mem_cons_self)
      exact absurd zero nonzero
    | cons e es =>
      rw [trimmed, whole] at parts
      cases parts
      exact ⟨d, es, rfl, nonzero⟩

theorem trimZeros_toDigits (n : Nat) :
    ∃ zeros, Nat.ofDigitChars 10 (trimZeros (Nat.toDigits 10 n)) 0 * 10 ^ zeros = n ∧
      (Nat.toDigits 10 n).length = (trimZeros (Nat.toDigits 10 n)).length + zeros := by
  obtain ⟨zeros, parts⟩ := trimZeros_append (Nat.toDigits 10 n)
  have value := congrArg (Nat.ofDigitChars 10 · 0) parts
  have length := congrArg List.length parts
  simp only [Nat.ofDigitChars_ten_toDigits, Nat.ofDigitChars_append,
    Nat.ofDigitChars_replicate_zero] at value
  rw [List.length_append, List.length_replicate] at length
  refine ⟨zeros, ?_, length⟩
  rw [Nat.mul_comm]
  exact value.symm

theorem digits_replicate_zero (n : Nat) : Digits (List.replicate n '0') := by
  intro c member
  rw [List.eq_of_mem_replicate member]
  rfl

theorem Digits.append {cs ds : List Char} (first : Digits cs) (second : Digits ds) :
    Digits (cs ++ ds) := by
  intro c member
  exact (List.mem_append.mp member).elim (first c) (second c)

namespace Numeral

variable (negative : Bool)

/-- The number with some digits in positional notation, with a point in any case. -/
def positional (digits : List Char) (exponent : Int) : Numeral :=
  if exponent < 0 then
    ⟨negative, ['0'], List.replicate (-exponent - 1).toNat '0' ++ digits, none⟩
  else if digits.length ≤ exponent.toNat + 1 then
    ⟨negative, digits ++ List.replicate (exponent.toNat + 1 - digits.length) '0', ['0'], none⟩
  else ⟨negative, digits.take (exponent.toNat + 1), digits.drop (exponent.toNat + 1), none⟩

/-- The number with some digits and a power of ten that the first digit counts. -/
def scientific (digits : List Char) (exponent : Int) : Numeral :=
  ⟨negative, digits.take 1, digits.drop 1, some exponent⟩

variable {digits : List Char} (exponent : Int)

private theorem chars_positional (nonempty : digits ≠ []) :
    (positional negative digits exponent).chars = positionalText true digits exponent := by
  unfold positional positionalText
  split
  · simp [chars, fractionChars, exponentChars, nonempty]
  · simp only
    split
    · simp [chars, fractionChars, exponentChars]
    · rename_i longer
      have rest : digits.drop (exponent.toNat + 1) ≠ [] := by
        rw [Ne, List.drop_eq_nil_iff]
        omega
      simp [chars, fractionChars, exponentChars, rest]

private theorem chars_scientific :
    (scientific negative digits exponent).chars = scientificText digits exponent := by
  unfold scientific scientificText chars fractionChars exponentChars
  simp only [List.drop_eq_nil_iff, List.append_assoc]

private theorem wellFormed_positional (leading : Leading digits) :
    (positional negative digits exponent).WellFormed := by
  obtain ⟨d, ds, parts, nonzero⟩ := leading.first
  unfold positional
  split
  · exact ⟨digits_replicate_zero 1, Or.inl rfl, (digits_replicate_zero _).append leading.digits⟩
  · split
    · exact ⟨leading.digits.append (digits_replicate_zero _),
        Or.inr ⟨d, _, by rw [parts]; rfl, nonzero⟩,
        digits_replicate_zero 1⟩
    · exact ⟨fun c member => leading.digits c (List.mem_of_mem_take member),
        Or.inr ⟨d, _, by rw [parts]; rfl, nonzero⟩,
        fun c member => leading.digits c (List.mem_of_mem_drop member)⟩

private theorem wellFormed_scientific (leading : Leading digits) :
    (scientific negative digits exponent).WellFormed := by
  obtain ⟨d, ds, parts, nonzero⟩ := leading.first
  exact ⟨fun c member => leading.digits c (List.mem_of_mem_take member),
    Or.inr ⟨d, [], by unfold scientific; rw [parts]; rfl, nonzero⟩,
    fun c member => leading.digits c (List.mem_of_mem_drop member)⟩

private theorem isWhole_positional (nonempty : digits ≠ []) :
    (positional negative digits exponent).isWhole = false := by
  unfold positional isWhole
  split
  · simp [nonempty]
  · split
    · rfl
    · simp
      omega

def shortestDigits (r : Rank) : List Char :=
  trimZeros (Nat.toDigits 10 (shortest .even r).significand)

def shortestExponent (r : Rank) : Int :=
  (shortest .even r).exponent + (Nat.toDigits 10 (shortest .even r).significand).length - 1

def ofRank (r : Rank) : Numeral :=
  if r.val = 0 then positional negative ['0'] 0
  else if doubleLayout.positional (shortestExponent r) then
    positional negative (shortestDigits r) (shortestExponent r)
  else scientific negative (shortestDigits r) (shortestExponent r)

variable {r : Rank}

private theorem leading_shortestDigits (nonzero : r.val ≠ 0) : Leading (shortestDigits r) :=
  (leading_toDigits ((shortest_writes .even r).significand_ne_zero nonzero)).trimZeros

private theorem shortestDigits_value (r : Rank) :
    ∃ zeros, Nat.ofDigitChars 10 (shortestDigits r) 0 * 10 ^ zeros =
        (shortest .even r).significand ∧
      shortestExponent r =
        (shortest .even r).exponent + ((shortestDigits r).length + zeros : Nat) - 1 := by
  obtain ⟨zeros, value, length⟩ := trimZeros_toDigits (shortest .even r).significand
  refine ⟨zeros, value, ?_⟩
  unfold shortestExponent
  rw [length]
  rfl

theorem chars_ofRank (r : Rank) : (ofRank negative r).chars = magnitudeText doubleLayout r := by
  have point : doubleLayout.pointAlways = true := rfl
  have tie : doubleLayout.tie = .even := rfl
  unfold ofRank magnitudeText
  rw [point, tie]
  by_cases zero : r.val = 0
  · rw [if_pos zero, if_pos zero]
    exact chars_positional negative 0 (by simp)
  · rw [if_neg zero, if_neg zero]
    obtain ⟨d, ds, parts, -⟩ := (leading_shortestDigits zero).first
    have nonempty : shortestDigits r ≠ [] := by simp [parts]
    change Numeral.chars (if doubleLayout.positional (shortestExponent r) = true then _ else _) =
      if doubleLayout.positional (shortestExponent r) = true then
        positionalText true (shortestDigits r) (shortestExponent r)
      else scientificText (shortestDigits r) (shortestExponent r)
    split
    · exact chars_positional negative _ nonempty
    · exact chars_scientific negative _

theorem negative_ofRank (r : Rank) : (ofRank negative r).negative = negative := by
  have positional : ∀ digits exponent,
      (positional negative digits exponent).negative = negative := by
    intro digits exponent
    unfold positional
    split
    · rfl
    · split <;> rfl
  unfold ofRank
  split
  · exact positional _ _
  · split
    · exact positional _ _
    · rfl

theorem wellFormed_ofRank (r : Rank) : (ofRank negative r).WellFormed := by
  unfold ofRank
  split
  · exact ⟨digits_replicate_zero 1, Or.inl rfl, digits_replicate_zero 1⟩
  · rename_i nonzero
    have leading := leading_shortestDigits nonzero
    split
    · exact wellFormed_positional negative _ leading
    · exact wellFormed_scientific negative _ leading

theorem int?_ofRank (r : Rank) : (ofRank negative r).int? = none := by
  have fractional : (ofRank negative r).isWhole = false := by
    unfold ofRank
    split
    · rfl
    · rename_i nonzero
      obtain ⟨d, ds, parts, -⟩ := (leading_shortestDigits nonzero).first
      have nonempty : shortestDigits r ≠ [] := by simp [parts]
      split
      · exact isWhole_positional negative _ nonempty
      · simp [scientific, isWhole]
  unfold int?
  simp [fractional]

private theorem double?_positional {digits : List Char} {exponent : Int} (few : exponent < 16)
    (formed : (positional negative digits exponent).WellFormed) :
    ∃ x, (positional negative digits exponent).double? = some x ∧ x.isFinite = true := by
  refine double?_isFinite formed ?_ fun great => ?_
  · unfold positional
    split
    · simp
    · split
      · simp only [List.length_append, List.length_replicate]
        omega
      · rw [List.length_take]
        omega
  · have none : (positional negative digits exponent).exponent = none := by
      unfold positional
      split
      · rfl
      · split <;> rfl
    rw [none, Option.getD_none] at great
    omega

private theorem lt_of_positional {exponent : Int}
    (positional : doubleLayout.positional exponent = true) : exponent < 16 := by
  simp only [doubleLayout, Bool.and_eq_true, decide_eq_true_eq] at positional
  exact positional.2

private theorem units_scientific {digits : List Char} {d : Decimal} {zeros : Nat}
    (value : Nat.ofDigitChars 10 digits 0 * 10 ^ zeros = d.significand)
    (nonempty : digits ≠ []) (low : -1074 ≤ d.exponent) :
    let n := scientific negative digits (d.exponent + (digits.length + zeros : Nat) - 1)
    (n.fraction.length : Int) ≤ n.exponent.getD 0 + 1074 ∧ n.units = d.units := by
  have positive : 0 < digits.length := List.length_pos_iff.mpr nonempty
  have fraction : (digits.drop 1).length = digits.length - 1 := List.length_drop
  have whole : digits.take 1 ++ digits.drop 1 = digits := List.take_append_drop 1 digits
  unfold units Decimal.units scientific
  simp only [Option.getD_some, whole, fraction]
  refine ⟨by omega, ?_⟩
  have places : (d.exponent + ((digits.length + zeros : Nat) : Int) - 1 -
      ((digits.length - 1 : Nat) : Int) + 1074).toNat = zeros + (d.exponent + 1074).toNat := by
    omega
  rw [places, Nat.pow_add, ← Nat.mul_assoc, value]

private theorem double?_scientific {digits : List Char} {d : Decimal} {zeros : Nat}
    (leading : Leading digits)
    (value : Nat.ofDigitChars 10 digits 0 * 10 ^ zeros = d.significand)
    (low : -1074 ≤ d.exponent) (bound : d.units ≤ lastMidpoint) :
    ∃ x, (scientific negative digits (d.exponent + (digits.length + zeros : Nat) - 1)).double? =
      some x ∧ x.isFinite = true := by
  obtain ⟨c, cs, parts, -⟩ := leading.first
  obtain ⟨counts, units⟩ := units_scientific negative value (by simp [parts]) low
  refine double?_isFinite (wellFormed_scientific negative _ leading) ?_ fun _ => ?_
  · unfold scientific
    rw [List.length_take]
    omega
  · rw [units]
    exact ⟨counts, bound⟩

private theorem double?_greatest (negative : Bool) :
    ((ofRank negative Rank.greatest).double?.map isFinite) = some true := by
  cases negative <;> decide +kernel

/-- What a finite double is written as is read as a finite double. -/
theorem double?_ofRank (r : Rank) :
    ∃ x, (ofRank negative r).double? = some x ∧ x.isFinite = true := by
  by_cases greatest : r = Rank.greatest
  · rw [greatest]
    exact Option.map_eq_some_iff.mp (double?_greatest negative)
  · have less : r.val < Rank.greatest.val := by
      have bound := r.isLt
      have other : r.val ≠ Rank.greatest.val := fun same => greatest (Fin.ext same)
      unfold Rank.greatest at other ⊢
      simp only at other ⊢
      omega
    unfold ofRank
    split
    · exact double?_positional negative (by decide)
        ⟨digits_replicate_zero 1, Or.inl rfl, digits_replicate_zero 1⟩
    · rename_i nonzero
      have writes := shortest_writes .even r
      have leading := leading_shortestDigits nonzero
      split
      · rename_i few
        exact double?_positional negative (lt_of_positional few)
          (wellFormed_positional negative _ leading)
      · obtain ⟨zeros, value, exponent⟩ := shortestDigits_value r
        rw [exponent]
        exact double?_scientific negative leading value writes.exponent
          (writes.units_le_lastMidpoint less)

end Numeral

end ProfileShell.Json
