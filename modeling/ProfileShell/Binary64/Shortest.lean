import ProfileShell.Binary64.Basic

/-!
Doubles in decimal notation with the fewest digits that read back.

A finite double is a whole multiple of 10^-1074, so its exact decimal expansion is a whole number.
The shortest digits are a leading part of that expansion or the next number of as many digits: the
first length at which one of the two reads back is taken, and of two that do the nearer one. The
exact expansion itself, which always reads back, stands behind the seventeen lengths tried.
-/

set_option autoImplicit false
set_option relaxedAutoImplicit false

namespace ProfileShell.Binary64

/-- Which of two equally near digit strings is taken. -/
inductive Tie
  | up
  | even
  deriving DecidableEq

structure Decimal where
  significand : Nat
  exponent : Int
  deriving DecidableEq

/-- The magnitude of a rank as a multiple of 10^-1074. -/
def expansion (r : Rank) : Nat :=
  r.scaled * Nat.pow 5 1074

/-- The number `n` of multiples of 10^-1074 is nearest to the magnitude of the rank. -/
def readsBack (r : Rank) (n : Nat) : Bool :=
  nearestRank n (Nat.pow 5 1074) == r.val

/-- Of a number and the next one, counted by a power of ten, the one that reads back; if both do,
the preferred one. -/
def candidate (lowReads nextReads preferLow : Bool) (low : Nat) (exponent : Int) :
    Option Decimal :=
  match lowReads, nextReads with
  | true, true => some ⟨if preferLow then low else low + 1, exponent⟩
  | true, false => some ⟨low, exponent⟩
  | false, true => some ⟨low + 1, exponent⟩
  | false, false => none

/-- The number of `digits` digits that reads back, if there is one: of the two around the
expansion, which has `length` digits, the nearer. -/
def withDigits (tie : Tie) (r : Rank) (length digits : Nat) : Option Decimal :=
  let unit := Nat.pow 10 (length - digits)
  let low := expansion r / unit
  let rest := expansion r % unit
  let preferLow :=
    2 * rest < unit || (2 * rest == unit && tie == .even && low % 2 == 0)
  candidate (readsBack r (low * unit)) (readsBack r ((low + 1) * unit)) preferLow low
    (((length - digits : Nat) : Int) - 1074)

/-- The shortest decimal fraction that reads back to the magnitude of a rank. -/
def shortest (tie : Tie) (r : Rank) : Decimal :=
  let length := (Nat.toDigits 10 (expansion r)).length
  ((List.range' 1 17).findSome? (withDigits tie r length)).getD ⟨expansion r, -1074⟩

/-- A digit string without its trailing zeros; a lone zero stays. -/
def trimZeros (digits : List Char) : List Char :=
  (digits.reverse.dropWhile (· == '0')).reverse

structure Layout where
  /-- The decimal exponents of the first digit for which no power of ten is written. -/
  positional : Int → Bool
  /-- Whether a whole number carries a point and a zero. -/
  pointAlways : Bool
  tie : Tie

/-- The digits of a number in positional notation; the first digit counts `10 ^ exponent`. -/
def positionalText (pointAlways : Bool) (digits : List Char) (exponent : Int) : List Char :=
  if exponent < 0 then
    ['0', '.'] ++ List.replicate (-exponent - 1).toNat '0' ++ digits
  else
    let places := exponent.toNat + 1
    if digits.length ≤ places then
      digits ++ List.replicate (places - digits.length) '0' ++
        (if pointAlways then ['.', '0'] else [])
    else digits.take places ++ '.' :: digits.drop places

/-- The digits of a number with the power of ten that its first digit counts. -/
def scientificText (digits : List Char) (exponent : Int) : List Char :=
  let sign := if exponent < 0 then '-' else '+'
  digits.take 1 ++ (if digits.length ≤ 1 then [] else '.' :: digits.drop 1) ++
    'e' :: sign :: Nat.toDigits 10 exponent.natAbs

def magnitudeText (layout : Layout) (r : Rank) : List Char :=
  if r.val = 0 then positionalText layout.pointAlways ['0'] 0
  else
    let decimal := shortest layout.tie r
    let written := Nat.toDigits 10 decimal.significand
    let exponent := decimal.exponent + written.length - 1
    let digits := trimZeros written
    if layout.positional exponent then positionalText layout.pointAlways digits exponent
    else scientificText digits exponent

def finiteText (layout : Layout) (negative : Bool) (r : Rank) : List Char :=
  if negative then '-' :: magnitudeText layout r else magnitudeText layout r

/-- In messages doubles are always positional, whole numbers have no point, and of two equally
near digit strings the greater is taken. -/
def display : Layout :=
  { positional := fun _ => true, pointAlways := false, tie := .up }

def toText : Binary64 → String
  | .nan => "NaN"
  | .infinite false => "inf"
  | .infinite true => "-inf"
  | .finite negative r => String.ofList (finiteText display negative r)

end ProfileShell.Binary64
