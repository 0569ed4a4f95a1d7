import ProfileShell.Json.Numeral
import ProfileShell.Proofs.Binary64.Products
import ProfileShell.Proofs.Binary64.Shortest

/-!
Numbers of JSON text read back as they are written, and as finite doubles.

A number is read as a double in two roundings. Both keep order, so the double is finite as long as
the digits that a word holds stay below the midpoint of the two greatest magnitudes.
-/

set_option autoImplicit false
set_option relaxedAutoImplicit false

namespace ProfileShell.Json

open Binary64

def Digits (cs : List Char) : Prop :=
  ∀ c ∈ cs, c.isDigit = true

def EndsNumber (rest : List Char) : Prop :=
  ∀ c ∈ rest.head?, c.isDigit = false ∧ c ≠ '.' ∧ c ≠ 'e' ∧ c ≠ 'E'

def EndsDigits (rest : List Char) : Prop :=
  ∀ c ∈ rest.head?, c.isDigit = false

private theorem EndsNumber.endsDigits {rest : List Char} (ends : EndsNumber rest) :
    EndsDigits rest :=
  fun c first => (ends c first).1

theorem digits_toDigits (n : Nat) : Digits (Nat.toDigits 10 n) :=
  fun _ member => Nat.isDigit_of_mem_toDigits (by decide) (by decide) member

theorem Digits.takeWhile_append {ds rest : List Char} (digits : Digits ds)
    (ends : EndsDigits rest) : (ds ++ rest).takeWhile Char.isDigit = ds := by
  rw [List.takeWhile_append_of_pos digits]
  cases rest with
  | nil => simp
  | cons c cs => simp [ends c rfl]

theorem Digits.dropWhile_append {ds rest : List Char} (digits : Digits ds)
    (ends : EndsDigits rest) : (ds ++ rest).dropWhile Char.isDigit = rest := by
  rw [List.dropWhile_append_of_pos digits]
  cases rest with
  | nil => rfl
  | cons c cs => simp [ends c rfl]

private theorem digits?_append {ds rest : List Char} (digits : Digits ds) (nonempty : ds ≠ [])
    (ends : EndsDigits rest) : digits? (ds ++ rest) = some (ds, rest) := by
  unfold digits?
  simp only [digits.takeWhile_append ends, digits.dropWhile_append ends]
  rw [if_neg (by simpa using nonempty)]

namespace Numeral

def fractionChars (fraction : List Char) : List Char :=
  if fraction = [] then [] else '.' :: fraction

def exponentChars : Option Int → List Char
  | none => []
  | some e => 'e' :: (if e < 0 then '-' else '+') :: Nat.toDigits 10 e.natAbs

def chars (n : Numeral) : List Char :=
  n.whole ++ (fractionChars n.fraction ++ exponentChars n.exponent)

structure WellFormed (n : Numeral) : Prop where
  whole : Digits n.whole
  first : n.whole = ['0'] ∨ ∃ d ds, n.whole = d :: ds ∧ d ≠ '0'
  fraction : Digits n.fraction

variable {n : Numeral}

private theorem endsDigits_exponentChars (exponent : Option Int) {rest : List Char}
    (ends : EndsNumber rest) : EndsDigits (exponentChars exponent ++ rest) := by
  cases exponent with
  | none => exact ends.endsDigits
  | some e =>
    rintro c ⟨⟩
    decide

private theorem endsDigits_fractionChars (n : Numeral) {rest : List Char} (ends : EndsNumber rest) :
    EndsDigits (fractionChars n.fraction ++ exponentChars n.exponent ++ rest) := by
  unfold fractionChars
  split
  · exact endsDigits_exponentChars n.exponent ends
  · rintro c ⟨⟩
    decide

private theorem wholePart?_append (formed : n.WellFormed) {rest : List Char}
    (ends : EndsDigits rest) : wholePart? (n.whole ++ rest) = some (n.whole, rest) := by
  rcases formed.first with zero | ⟨d, ds, parts, nonzero⟩
  · rw [zero]
    rfl
  · have read := digits?_append formed.whole (by simp [parts]) ends
    rw [parts] at read ⊢
    unfold wholePart?
    split
    · rename_i same
      cases same
      exact absurd rfl nonzero
    · exact read

private theorem fraction?_append {fraction : List Char} (digits : Digits fraction)
    {rest : List Char} (ends : EndsDigits rest) (noPoint : rest.head? ≠ some '.') :
    fraction? (fractionChars fraction ++ rest) = some (fraction, rest) := by
  unfold fractionChars
  split
  · rename_i none
    rw [none, List.nil_append]
    unfold fraction?
    split
    · exact absurd List.head?_cons noPoint
    · rfl
  · rename_i some
    exact digits?_append digits some ends

private theorem exponent?_append (exponent : Option Int) {rest : List Char}
    (ends : EndsNumber rest) :
    exponent? (exponentChars exponent ++ rest) = some (exponent, rest) := by
  cases exponent with
  | none =>
    cases rest with
    | nil => rfl
    | cons c cs =>
      obtain ⟨-, -, small, capital⟩ := ends c rfl
      simp [exponentChars, exponent?, small, capital]
  | some e =>
    have read := digits?_append (digits_toDigits e.natAbs) Nat.toDigits_ne_nil ends.endsDigits
    have value := Nat.ofDigitChars_ten_toDigits (n := e.natAbs)
    generalize size : e.natAbs = k at read value ⊢
    by_cases negative : e < 0
    · have back : -(k : Int) = e := by omega
      simp [exponentChars, size, negative, exponent?, exponentDigits?, read, value, back]
    · have back : (k : Int) = e := by omega
      simp [exponentChars, size, negative, exponent?, exponentDigits?, read, value, back]

/-- A number is read back, up to a text that cannot belong to it. -/
theorem numeral?_chars (formed : n.WellFormed) {rest : List Char} (ends : EndsNumber rest) :
    numeral? n.negative (n.chars ++ rest) = some (n, rest) := by
  have whole := wholePart?_append formed (endsDigits_fractionChars n ends)
  have noPoint : (exponentChars n.exponent ++ rest).head? ≠ some '.' := by
    cases n.exponent with
    | none => exact fun point => (ends '.' point).2.1 rfl
    | some e => simp [exponentChars]
  have fraction := fraction?_append formed.fraction
    (endsDigits_exponentChars n.exponent ends) noPoint
  have exponent := exponent?_append n.exponent ends
  unfold numeral? chars
  simp only [List.append_assoc] at whole ⊢
  simp [whole, fraction, exponent]

private theorem le_ofDigitChars (ds : List Char) (word : Nat) :
    word ≤ Nat.ofDigitChars 10 ds word := by
  rw [Nat.ofDigitChars_eq_ofDigitChars_zero]
  have positive : 0 < 10 ^ ds.length := Nat.pow_pos (by decide)
  have product := Nat.le_mul_of_pos_left word positive
  omega

private theorem takeDigits_spec {word : Nat} (fits : word < UInt64.size) (ds : List Char) :
    ∃ taken, ds = taken ++ (takeDigits word ds).2 ∧
      (takeDigits word ds).1 = Nat.ofDigitChars 10 taken word ∧
      (takeDigits word ds).1 < UInt64.size := by
  induction ds generalizing word with
  | nil => exact ⟨[], rfl, rfl, fits⟩
  | cons d ds ih =>
    unfold takeDigits
    simp only
    split
    · rename_i more
      obtain ⟨taken, parts, value, inside⟩ := ih more
      refine ⟨d :: taken, by rw [List.cons_append, ← parts], ?_, inside⟩
      rw [value, Nat.ofDigitChars_cons, Nat.mul_comm 10]
    · exact ⟨[], rfl, rfl, fits⟩

private theorem takeDigits_of_fits {ds : List Char} {word : Nat}
    (fits : Nat.ofDigitChars 10 ds word < UInt64.size) :
    takeDigits word ds = (Nat.ofDigitChars 10 ds word, []) := by
  induction ds generalizing word with
  | nil => rfl
  | cons d ds ih =>
    rw [Nat.ofDigitChars_cons, Nat.mul_comm 10] at fits ⊢
    have more := Nat.lt_of_le_of_lt (le_ofDigitChars ds _) fits
    unfold takeDigits
    simp only [if_pos more]
    exact ih fits

private theorem ofDigitChars_lt {ds : List Char} (digits : Digits ds) :
    Nat.ofDigitChars 10 ds 0 < 10 ^ ds.length := by
  induction ds with
  | nil => decide
  | cons d ds ih =>
    have rest := ih fun c member => digits c (List.mem_cons_of_mem d member)
    have digit : d.toNat - '0'.toNat ≤ 9 := by
      have range := Char.isDigit_iff_toNat.mp (digits d List.mem_cons_self)
      have zero : '0'.toNat = 48 := rfl
      have nine : '9'.toNat = 57 := rfl
      omega
    rw [Nat.ofDigitChars_cons, Nat.ofDigitChars_eq_ofDigitChars_zero, List.length_cons,
      Nat.pow_succ, Nat.mul_zero, Nat.zero_add]
    have product := Nat.mul_le_mul_left (10 ^ ds.length) digit
    omega

private theorem word_eq (formed : n.WellFormed) (short : n.whole.length ≤ 16) :
    ∃ taken rest, n.fraction = taken ++ rest ∧
      n.word = (Nat.ofDigitChars 10 (n.whole ++ taken) 0,
        n.exponent.getD 0 - (taken.length : Int)) ∧
      Nat.ofDigitChars 10 (n.whole ++ taken) 0 < UInt64.size := by
  have fits : Nat.ofDigitChars 10 n.whole 0 < UInt64.size := by
    have power : 10 ^ n.whole.length ≤ 10 ^ 16 := Nat.pow_le_pow_right (by decide) short
    have digits := ofDigitChars_lt formed.whole
    have size : 10 ^ 16 ≤ UInt64.size := by decide
    omega
  obtain ⟨taken, parts, value, inside⟩ := takeDigits_spec fits n.fraction
  refine ⟨taken, _, parts, ?_, ?_⟩
  · unfold word
    rw [takeDigits_of_fits fits]
    simp only [List.length_nil]
    rw [value, ← Nat.ofDigitChars_append]
    have lengths := congrArg List.length parts
    rw [List.length_append] at lengths
    refine Prod.ext rfl ?_
    simp only
    omega
  · rw [Nat.ofDigitChars_append, ← value]
    exact inside

private theorem atMost_ofInt {w v : Nat} (le : w ≤ v) (finite : (ofInt v).isFinite = true) :
    AtMost (ofInt w) (ofInt v) := by
  have magnitudes : (w : Int).natAbs <<< 1074 ≤ (v : Int).natAbs <<< 1074 := by
    rw [Nat.shiftLeft_eq, Nat.shiftLeft_eq]
    exact Nat.mul_le_mul_right _ le
  exact atMost_ofScaled Nat.one_pos magnitudes finite

private theorem atMost_power {j k : Nat} (le : j ≤ k) (finite : (power k).isFinite = true) :
    AtMost (power j) (power k) := by
  have magnitudes : Nat.pow 10 j <<< 1074 ≤ Nat.pow 10 k <<< 1074 := by
    rw [Nat.shiftLeft_eq, Nat.shiftLeft_eq]
    exact Nat.mul_le_mul_right _ (Nat.pow_le_pow_right (by decide) le)
  exact atMost_ofScaled Nat.one_pos magnitudes finite

private theorem isFinite_greatestPower : (power maxPower).isFinite = true := by
  decide +kernel

private theorem power_zero : power 0 = .finite false one := by
  decide +kernel

private theorem power_eq {k : Nat} (le : k ≤ maxPower) :
    ∃ t r, power k = .finite t r ∧ one.val ≤ r.val := by
  have finite := (atMost_power le isFinite_greatestPower).isFinite
  obtain ⟨s, t, a, b, lower, upper, ranks⟩ := atMost_power (Nat.zero_le k) finite
  rw [power_zero] at lower
  cases lower
  exact ⟨t, b, upper, ranks⟩

private theorem isFinite_div_power {x : Binary64} (finite : x.isFinite = true) {k : Nat}
    (le : k ≤ maxPower) : (x / power k).isFinite = true := by
  obtain ⟨t, r, same, ranks⟩ := power_eq le
  rw [same]
  exact isFinite_div finite ranks

private theorem isFinite_greatestWord : (ofInt (UInt64.size - 1 : Nat)).isFinite = true := by
  decide +kernel

private theorem isFinite_ofInt_word {w : Nat} (fits : w < UInt64.size) :
    (ofInt w).isFinite = true :=
  (atMost_ofInt (Nat.le_sub_one_of_lt fits) isFinite_greatestWord).isFinite

private theorem isFinite_greatestProduct :
    (ofInt (UInt64.size - 1 : Nat) * power 288).isFinite = true := by
  decide +kernel

private theorem isFinite_products : ∀ k < 20,
    (ofInt (lastMidpoint / Nat.pow 10 (k + 289 + 1074) : Nat)).isFinite = true ∧
      (ofInt (lastMidpoint / Nat.pow 10 (k + 289 + 1074) : Nat) *
        power (k + 289)).isFinite = true := by
  decide +kernel

private theorem lastMidpoint_lt : lastMidpoint < 10 ^ (309 + 1074) := by
  decide +kernel

private theorem lt_power {n i j : Nat} (lt : n < 10 ^ i) (le : i ≤ j) : n < 10 ^ j :=
  Nat.lt_of_lt_of_le lt (Nat.pow_le_pow_right (by decide) le)

private theorem isFinite_mul_power {w k : Nat} (fits : w < UInt64.size) (le : k ≤ maxPower)
    (below : 288 < k → w * Nat.pow 10 (k + 1074) ≤ lastMidpoint) :
    (ofInt w * power k).isFinite = true := by
  have finite : ∀ {j}, j ≤ maxPower → (power j).isFinite = true :=
    fun le => (atMost_power le isFinite_greatestPower).isFinite
  rcases Nat.lt_or_ge 288 k with great | small
  · obtain ⟨j, rfl⟩ : ∃ j, k = j + 289 := ⟨k - 289, by omega⟩
    have few : j < 20 := by
      unfold maxPower at le
      omega
    obtain ⟨wordFinite, product⟩ := isFinite_products j few
    have positive : 0 < Nat.pow 10 (j + 289 + 1074) := Nat.pow_pos (by decide)
    have word := (Nat.le_div_iff_mul_le positive).mpr (below great)
    have same : AtMost (power (j + 289)) (power (j + 289)) :=
      atMost_power (Nat.le_refl _) (finite le)
    exact isFinite_mul_of_atMost (atMost_ofInt word wordFinite) same product
  · exact isFinite_mul_of_atMost
      (atMost_ofInt (Nat.le_sub_one_of_lt fits) isFinite_greatestWord)
      (atMost_power small (finite (by decide))) isFinite_greatestProduct

private theorem isFinite_timesPower {w : Nat} (fits : w < UInt64.size) {e : Int}
    (below : 288 < e → w * Nat.pow 10 (e + 1074).toNat ≤ lastMidpoint) :
    ∃ x, timesPower (ofInt w) e = some x ∧ x.isFinite = true := by
  have word := isFinite_ofInt_word fits
  unfold timesPower
  split
  · exact ⟨_, rfl, isFinite_div_power (isFinite_div_power word (Nat.le_refl _))
      (Nat.min_le_left _ _)⟩
  · split
    · rename_i low negative
      refine ⟨_, rfl, isFinite_div_power word ?_⟩
      unfold maxPower at low ⊢
      omega
    · obtain ⟨k, rfl⟩ : ∃ k : Nat, e = k := ⟨e.toNat, by omega⟩
      have places : ((k : Int) + 1074).toNat = k + 1074 := by omega
      rw [places] at below
      split
      · rename_i high
        refine ⟨_, rfl, isFinite_mul_power fits (by simpa using high) fun great => ?_⟩
        exact below (by omega)
      · rename_i high
        -- Past the greatest power only zero is at most the midpoint.
        have zero : w = 0 := by
          unfold maxPower at high
          have power : lastMidpoint < 10 ^ (k + 1074) :=
            lt_power lastMidpoint_lt (Nat.add_le_add_right (by omega) 1074)
          rcases Nat.eq_zero_or_pos w with none | some
          · exact none
          · have product := Nat.le_mul_of_pos_left (10 ^ (k + 1074)) some
            have bound := below (by omega)
            exact absurd power (Nat.not_lt_of_le (Nat.le_trans product bound))
        have none : ofInt (w : Int) = .zero := by
          rw [zero]
          decide +kernel
        rw [if_pos none]
        exact ⟨_, rfl, word⟩

/-- The number of multiples of 10^-1074 that the digits of a number stand for, if it is whole. -/
def units (n : Numeral) : Nat :=
  Nat.ofDigitChars 10 (n.whole ++ n.fraction) 0 *
    10 ^ (n.exponent.getD 0 - (n.fraction.length : Int) + 1074).toNat

private theorem word_le_units {taken rest : List Char} (parts : n.fraction = taken ++ rest)
    (counts : (n.fraction.length : Int) ≤ n.exponent.getD 0 + 1074) :
    Nat.ofDigitChars 10 (n.whole ++ taken) 0 *
      10 ^ (n.exponent.getD 0 - (taken.length : Int) + 1074).toNat ≤ n.units := by
  have lengths := congrArg List.length parts
  rw [List.length_append] at lengths
  have places : (n.exponent.getD 0 - (taken.length : Int) + 1074).toNat =
      rest.length + (n.exponent.getD 0 - (n.fraction.length : Int) + 1074).toNat := by
    omega
  have more : Nat.ofDigitChars 10 (n.whole ++ taken) 0 * 10 ^ rest.length ≤
      Nat.ofDigitChars 10 (n.whole ++ n.fraction) 0 := by
    rw [parts, ← List.append_assoc]
    generalize n.whole ++ taken = front
    rw [Nat.ofDigitChars_append, Nat.ofDigitChars_eq_ofDigitChars_zero (l := rest), Nat.mul_comm]
    exact Nat.le_add_right _ _
  unfold units
  rw [places, Nat.pow_add, ← Nat.mul_assoc]
  exact Nat.mul_le_mul_right _ more

/-- A number with few digits before its point, and with units of at most the midpoint if its
exponent is great, is read as a finite double. -/
theorem double?_isFinite (formed : n.WellFormed) (short : n.whole.length ≤ 16)
    (below : 288 < n.exponent.getD 0 →
      (n.fraction.length : Int) ≤ n.exponent.getD 0 + 1074 ∧ n.units ≤ lastMidpoint) :
    ∃ x, n.double? = some x ∧ x.isFinite = true := by
  obtain ⟨taken, rest, parts, word, fits⟩ := word_eq formed short
  obtain ⟨x, product, finite⟩ := isFinite_timesPower fits
    (e := n.exponent.getD 0 - (taken.length : Int)) fun great => by
      obtain ⟨counts, bound⟩ := below (by omega)
      exact Nat.le_trans (word_le_units parts counts) bound
  refine ⟨if n.negative then -x else x, ?_, ?_⟩
  · unfold double?
    rw [word]
    simp [product, finite]
  · obtain ⟨s, r, rfl⟩ := (isFinite_iff x).mp finite
    cases n.negative <;> rfl

end Numeral

end ProfileShell.Json
