import ProfileShell.Binary64.Decimal
import ProfileShell.Proofs.Json.Double

/-!
The text of a finite double in messages reads back to it.

Its digits with a point among them stand for the same number of multiples of 10^-1074 as the
shortest decimal of the magnitude, and reading rounds that number to the nearest magnitude.
-/

set_option autoImplicit false
set_option relaxedAutoImplicit false

namespace ProfileShell

private theorem divHalfEven_mul_mul (num den : Nat) {k : Nat} (positive : 0 < k) :
    divHalfEven (num * k) (den * k) = divHalfEven num den := by
  have below : 2 * (num % den * k) < den * k ↔ 2 * (num % den) < den := by
    rw [← Nat.mul_assoc]
    exact Nat.mul_lt_mul_right positive
  have above : den * k < 2 * (num % den * k) ↔ den < 2 * (num % den) := by
    rw [← Nat.mul_assoc]
    exact Nat.mul_lt_mul_right positive
  unfold divHalfEven
  simp only [Nat.mul_div_mul_right num den positive, Nat.mul_mod_mul_right, below, above]

private theorem nearestRank_mul (num den : Nat) {k : Nat} (positive : 0 < k) :
    nearestRank (num * k) (den * k) = nearestRank num den := by
  unfold nearestRank
  have shifted : ∀ shift, (den * k) <<< shift = den <<< shift * k := by
    intro shift
    rw [Nat.shiftLeft_eq, Nat.shiftLeft_eq, Nat.mul_right_comm]
  simp only [Nat.mul_div_mul_right num den positive, shifted, divHalfEven_mul_mul _ _ positive]

private theorem nearestRank_congr {a b c d : Nat} (first : 0 < b) (second : 0 < d)
    (same : a * d = c * b) : nearestRank a b = nearestRank c d :=
  calc nearestRank a b = nearestRank (a * d) (b * d) := (nearestRank_mul a b second).symm
    _ = nearestRank (c * b) (d * b) := by rw [same, Nat.mul_comm b]
    _ = nearestRank c d := nearestRank_mul c d first

private theorem nearestRank_of_small {num den : Nat} (small : 2 * num < den) :
    nearestRank num den = 0 := by
  have quotient : num / den = 0 := Nat.div_eq_of_lt (by omega)
  have remainder : num % den = num := Nat.mod_eq_of_lt (by omega)
  simp [nearestRank, divHalfEven, quotient, remainder, small]

namespace Binary64

open Json (Digits EndsDigits Leading leading_toDigits trimZeros_toDigits digits_replicate_zero)
open Json.Numeral (fractionChars)

/-- Digits with a point among them stand for a decimal. -/
structure Decimal.Pointed (d : Decimal) (whole fraction : List Char) : Prop where
  nonempty : whole ≠ []
  before : Digits whole
  after : Digits fraction
  places : fraction.length ≤ 1074
  units : Nat.ofDigitChars 10 (whole ++ fraction) 0 * 10 ^ (1074 - fraction.length) = d.units

private theorem ofDigitChars_zeros (front ds : List Char) (zeros : Nat)
    (none : Nat.ofDigitChars 10 front 0 = 0) :
    Nat.ofDigitChars 10 (front ++ List.replicate zeros '0' ++ ds) 0 =
      Nat.ofDigitChars 10 ds 0 := by
  rw [Nat.ofDigitChars_append, Nat.ofDigitChars_append, none, Nat.ofDigitChars_replicate_zero,
    Nat.mul_zero]

private theorem Decimal.pointed_positionalText {d : Decimal} {digits : List Char} {zeros : Nat}
    (leading : Leading digits) (value : Nat.ofDigitChars 10 digits 0 * 10 ^ zeros = d.significand)
    (low : -1074 ≤ d.exponent) :
    ∃ whole fraction,
      positionalText false digits (d.exponent + (digits.length + zeros : Nat) - 1) =
        whole ++ fractionChars fraction ∧ d.Pointed whole fraction := by
  obtain ⟨c, cs, parts, -⟩ := leading.first
  have positive : 0 < digits.length := by simp [parts]
  have units : d.units =
      Nat.ofDigitChars 10 digits 0 * 10 ^ (zeros + (d.exponent + 1074).toNat) := by
    rw [Decimal.units, ← value, Nat.mul_assoc, Nat.pow_add]
  generalize first : d.exponent + (digits.length + zeros : Nat) - 1 = exponent
  unfold positionalText
  split
  · rename_i negative
    refine ⟨['0'], List.replicate (-exponent - 1).toNat '0' ++ digits, ?_, by simp,
      digits_replicate_zero 1, (digits_replicate_zero _).append leading.digits, ?_, ?_⟩
    · simp [fractionChars, parts]
    · simp only [List.length_append, List.length_replicate]
      omega
    · rw [← List.append_assoc, ofDigitChars_zeros _ _ _ rfl, units]
      congr 2
      simp only [List.length_append, List.length_replicate]
      omega
  · simp only
    split
    · rename_i shorter
      refine ⟨digits ++ List.replicate (exponent.toNat + 1 - digits.length) '0', [], ?_,
        by simp [parts], leading.digits.append (digits_replicate_zero _), by simp [Digits],
        Nat.zero_le _, ?_⟩
      · simp [fractionChars]
      · rw [List.append_nil, Nat.ofDigitChars_append, Nat.ofDigitChars_replicate_zero, units,
          Nat.mul_comm (10 ^ _), Nat.mul_assoc, ← Nat.pow_add]
        congr 2
        simp only [List.length_nil]
        omega
    · rename_i longer
      have whole : digits.take (exponent.toNat + 1) ++ digits.drop (exponent.toNat + 1) = digits :=
        List.take_append_drop _ _
      refine ⟨digits.take (exponent.toNat + 1), digits.drop (exponent.toNat + 1), ?_,
        by simp [parts], fun c member => leading.digits c (List.mem_of_mem_take member),
        fun c member => leading.digits c (List.mem_of_mem_drop member), ?_, ?_⟩
      · have rest : digits.drop (exponent.toNat + 1) ≠ [] := by
          rw [Ne, List.drop_eq_nil_iff]
          omega
        simp [fractionChars, rest]
      · rw [List.length_drop]
        omega
      · rw [whole, List.length_drop, units]
        congr 2
        omega

private theorem toLower_digit {c : Char} (digit : c.isDigit = true) : c.toLower = c := by
  have notUpper : ¬ (c.val ≥ 65 ∧ c.val ≤ 90) := by
    intro upper
    have nine := (Char.isDigit_iff_toNat.mp digit).2
    have sixtyFive : 65 ≤ c.toNat := upper.1
    have last : '9'.toNat = 57 := rfl
    omega
  unfold Char.toLower
  exact dif_neg notUpper

private theorem readMagnitude_digit (negative : Bool) {c : Char} (cs : List Char)
    (digit : c.isDigit = true) :
    readMagnitude negative (c :: cs) = readUnsigned negative (c :: cs) := by
  have other : ∀ (word : String) (d : Char), word.toList.head? = some d → d.isDigit = false →
      (String.ofList ((c :: cs).map Char.toLower) == word) = false := by
    intro word d first letter
    rw [beq_eq_false_iff_ne]
    rintro rfl
    rw [String.toList_ofList, List.map_cons, List.head?_cons, toLower_digit digit] at first
    cases first
    rw [digit] at letter
    cases letter
  unfold readMagnitude
  simp only [other "inf" 'i' rfl rfl, other "infinity" 'i' rfl rfl, other "nan" 'n' rfl rfl]
  rfl

private theorem read_digit (negative : Bool) {c : Char} (cs : List Char)
    (digit : c.isDigit = true) :
    read (String.ofList (if negative then '-' :: c :: cs else c :: cs)) =
      readUnsigned negative (c :: cs) := by
  rw [← readMagnitude_digit negative cs digit]
  unfold read
  rw [String.toList_ofList]
  cases negative with
  | true => rfl
  | false =>
    simp only [Bool.false_eq_true, if_false]
    split
    · rename_i same
      cases same
      exact absurd digit (by decide)
    · rename_i same
      cases same
      exact absurd digit (by decide)
    · rfl

private theorem readUnsigned_pointed (negative : Bool) {whole fraction : List Char}
    (nonempty : whole ≠ []) (before : Digits whole) (after : Digits fraction) :
    readUnsigned negative (whole ++ fractionChars fraction) =
      some (ofDecimal negative (Nat.ofDigitChars 10 (whole ++ fraction) 0)
        (-(fraction.length : Int))) := by
  have ends : EndsDigits (fractionChars fraction) := by
    unfold fractionChars
    split <;> rintro c ⟨⟩
    decide
  have noRest : EndsDigits [] := nofun
  have fractionTaken := after.takeWhile_append noRest
  have fractionLeft := after.dropWhile_append noRest
  rw [List.append_nil] at fractionTaken fractionLeft
  unfold readUnsigned
  simp only [before.takeWhile_append ends, before.dropWhile_append ends]
  by_cases none : fraction = []
  · simp [none, fractionChars, nonempty, readExponent]
  · simp [none, fractionChars, nonempty, readExponent, fractionTaken, fractionLeft]

private theorem ofDecimal_places (negative : Bool) {n places : Nat} (nonzero : n ≠ 0)
    (few : places ≤ n.log2 + 400) :
    ofDecimal negative n (-(places : Int)) = ofScaled negative (n <<< 1074) (10 ^ places) := by
  unfold ofDecimal
  rw [if_neg nonzero, if_neg (by omega), if_neg (by omega)]
  split
  · obtain rfl : places = 0 := by omega
    simp
  · simp

private theorem ofScaled_of_nearest (negative : Bool) {r : Rank} {num den : Nat}
    (nearest : nearestRank num den = r.val) : ofScaled negative num den = .finite negative r := by
  unfold ofScaled
  simp [nearest]

namespace Decimal.Pointed

variable {d : Decimal} {whole fraction : List Char} {r : Rank}

private theorem two_mul_lt_scale : 2 * 10 ^ 674 < scale := by
  decide +kernel

/-- With more places the decimal would be nearest to zero. -/
private theorem places_le (pointed : d.Pointed whole fraction) (writes : d.Writes r)
    (nonzero : r.val ≠ 0) :
    fraction.length ≤ (Nat.ofDigitChars 10 (whole ++ fraction) 0).log2 + 400 := by
  have atMost := pointed.places
  have units := pointed.units
  generalize Nat.ofDigitChars 10 (whole ++ fraction) 0 = n at units ⊢
  generalize fraction.length = k at atMost units ⊢
  rcases Nat.lt_or_ge (n.log2 + 400) k with more | few
  · have digits : n < 10 ^ (k - 400) :=
      calc n < 2 ^ (n.log2 + 1) := Nat.lt_log2_self
        _ ≤ 2 ^ (k - 400) := Nat.pow_le_pow_right (by decide) (by omega)
        _ ≤ 10 ^ (k - 400) := Nat.pow_le_pow_left (by decide) _
    have places : k - 400 + (1074 - k) = 674 := by omega
    have small : d.units < 10 ^ 674 := by
      rw [← units, ← places, Nat.pow_add]
      exact Nat.mul_lt_mul_of_pos_right digits (Nat.pow_pos (by decide))
    have zero := nearestRank_of_small
      (Nat.lt_trans (Nat.mul_lt_mul_of_pos_left small Nat.two_pos) two_mul_lt_scale)
    exact absurd ((readsBack_iff r _).mp writes.readsBack) (zero ▸ Ne.symm nonzero)
  · exact few

private theorem shiftLeft_mul_scale (n : Nat) {k m : Nat} (exponent : m = 1074) (le : k ≤ m) :
    n <<< m * scale = n * 10 ^ (m - k) * 10 ^ k := by
  have power : scale = Nat.pow 5 m := by
    unfold scale
    rw [← exponent]
  rw [power, Nat.shiftLeft_eq, Nat.mul_assoc, Nat.mul_assoc, ← Nat.pow_add,
    Nat.sub_add_cancel le]
  exact congrArg (n * ·) (Nat.mul_pow 2 5 m).symm

private theorem ofDecimal_eq (pointed : d.Pointed whole fraction) (writes : d.Writes r)
    (nonzero : r.val ≠ 0) (negative : Bool) :
    ofDecimal negative (Nat.ofDigitChars 10 (whole ++ fraction) 0) (-(fraction.length : Int)) =
      .finite negative r := by
  have few := pointed.places_le writes nonzero
  have atMost := pointed.places
  have units := pointed.units
  have nearest := (readsBack_iff r _).mp writes.readsBack
  generalize Nat.ofDigitChars 10 (whole ++ fraction) 0 = n at units few ⊢
  generalize fraction.length = k at atMost units few ⊢
  have significand : n ≠ 0 := by
    rintro rfl
    rw [← units, Nat.zero_mul, nearestRank_of_small scale_pos] at nearest
    exact nonzero nearest.symm
  have same : n <<< 1074 * scale = d.units * 10 ^ k := by
    rw [← units]
    exact shiftLeft_mul_scale n rfl atMost
  rw [ofDecimal_places negative significand few]
  refine ofScaled_of_nearest negative ?_
  rw [nearestRank_congr (Nat.pow_pos (by decide)) scale_pos same]
  exact nearest

end Decimal.Pointed

/-- The text of a magnitude in messages is a sequence of digits with a point among them, and is
read as the magnitude. -/
private theorem magnitudeText_pointed (r : Rank) :
    ∃ whole fraction, magnitudeText display r = whole ++ fractionChars fraction ∧
      whole ≠ [] ∧ Digits whole ∧ Digits fraction ∧
      ∀ negative, ofDecimal negative (Nat.ofDigitChars 10 (whole ++ fraction) 0)
        (-(fraction.length : Int)) = .finite negative r := by
  unfold magnitudeText
  split
  · rename_i zero
    have rank : r = .zero := Fin.ext zero
    refine ⟨['0'], [], rfl, by simp, digits_replicate_zero 1, by simp [Digits], ?_⟩
    intro negative
    rw [rank]
    rfl
  · rename_i nonzero
    have writes := shortest_writes .up r
    have significand := writes.significand_ne_zero nonzero
    have leading := leading_toDigits significand
    obtain ⟨zeros, value, length⟩ := trimZeros_toDigits (shortest .up r).significand
    obtain ⟨whole, fraction, text, pointed⟩ :=
      Decimal.pointed_positionalText leading.trimZeros value writes.exponent
    refine ⟨whole, fraction, ?_, pointed.nonempty, pointed.before, pointed.after,
      pointed.ofDecimal_eq writes nonzero⟩
    rw [← text, ← length]
    simp only [display, if_true]

theorem read_toText_finite (negative : Bool) (r : Rank) :
    read (toText (.finite negative r)) = some (.finite negative r) := by
  obtain ⟨whole, fraction, text, nonempty, before, after, reads⟩ := magnitudeText_pointed r
  obtain ⟨c, cs, parts⟩ := List.exists_cons_of_ne_nil nonempty
  have digit : c.isDigit = true := before c (parts ▸ List.mem_cons_self)
  have first : whole ++ fractionChars fraction = c :: (cs ++ fractionChars fraction) := by
    rw [parts, List.cons_append]
  change read (String.ofList
    (if negative then '-' :: magnitudeText display r else magnitudeText display r)) = _
  rw [text, first, read_digit negative _ digit, ← first,
    readUnsigned_pointed negative nonempty before after, reads]

end Binary64

end ProfileShell
