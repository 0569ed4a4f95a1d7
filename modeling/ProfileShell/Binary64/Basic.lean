/-!
Double-precision binary numbers (IEEE 754 binary64) with exact rounding.

The finite magnitudes are numbered in ascending order by their rank, so each has one
representation and ranks compare as the magnitudes do. Every finite magnitude is a whole multiple
of 2^-1074, its scaled value; arithmetic is done on scaled values and rounded once, to the nearest
magnitude and on a tie to the even rank.
-/

set_option autoImplicit false
set_option relaxedAutoImplicit false

namespace ProfileShell

/-- The ranks of the finite magnitudes: the first 2^52 are the subnormal ones, zero included, and
each of the 2046 exponents above adds 2^52 more. -/
abbrev Rank := Fin (2047 <<< 52)

/-- A double: not a number, an infinity, or a sign and a finite magnitude. -/
inductive Binary64
  | nan
  | infinite (negative : Bool)
  | finite (negative : Bool) (rank : Rank)
  deriving DecidableEq

def Rank.zero : Rank := ⟨0, by decide⟩

/-- The magnitude of a rank as a multiple of 2^-1074. -/
def Rank.scaled (r : Rank) : Nat :=
  if r.val < 1 <<< 52 then r.val
  else ((1 <<< 52) + r.val % (1 <<< 52)) <<< ((r.val >>> 52) - 1)

/-- The quotient rounded to the nearest whole number, a half to the even one. -/
def divHalfEven (num den : Nat) : Nat :=
  let q := num / den
  let r := num % den
  if 2 * r < den then q
  else if den < 2 * r then q + 1
  else q + q % 2

/-- The rank nearest to `num / den` multiples of 2^-1074; a rank past the last one means that the
magnitude is too large. -/
def nearestRank (num den : Nat) : Nat :=
  let shift := (num / den).log2 - 52
  (shift <<< 52) + divHalfEven num (den <<< shift)

namespace Binary64

/-- The double nearest to `num / den` multiples of 2^-1074 with the given sign. -/
def ofScaled (negative : Bool) (num den : Nat) : Binary64 :=
  let rank := nearestRank num den
  if h : rank < 2047 <<< 52 then .finite negative ⟨rank, h⟩ else .infinite negative

def zero : Binary64 := .finite false .zero

instance : Inhabited Binary64 := ⟨zero⟩

def ofInt (i : Int) : Binary64 :=
  ofScaled (i < 0) (i.natAbs <<< 1074) 1

def ofQuotient (num den : Nat) : Binary64 :=
  ofScaled false (num <<< 1074) den

def isFinite : Binary64 → Bool
  | .finite _ _ => true
  | _ => false

/-- A finite double as a whole multiple of 2^-1074. -/
def scaledInt (negative : Bool) (r : Rank) : Int :=
  if negative then -(r.scaled : Int) else r.scaled

/-- The place of a double on the line of doubles; both zeros stand at the same place and a NaN has
none. -/
def place : Binary64 → Option Int
  | .nan => none
  | .infinite negative =>
    let past : Int := (2047 <<< 52 : Nat)
    some (if negative then -past else past)
  | .finite negative r => some (if negative then -(r.val : Int) else r.val)

def lt (x y : Binary64) : Bool :=
  match x.place, y.place with
  | some a, some b => a < b
  | _, _ => false

def le (x y : Binary64) : Bool :=
  match x.place, y.place with
  | some a, some b => a ≤ b
  | _, _ => false

def neg : Binary64 → Binary64
  | .nan => .nan
  | .infinite negative => .infinite !negative
  | .finite negative r => .finite (!negative) r

/-- The rounded sum. A sum of zero is negative only if both terms are. -/
def add : Binary64 → Binary64 → Binary64
  | .nan, _ => .nan
  | _, .nan => .nan
  | .infinite s, .infinite t => if s = t then .infinite s else .nan
  | .infinite s, .finite _ _ => .infinite s
  | .finite _ _, .infinite t => .infinite t
  | .finite s a, .finite t b =>
    let sum := scaledInt s a + scaledInt t b
    if sum = 0 then .finite (s && t) .zero
    else ofScaled (sum < 0) sum.natAbs 1

def sub (x y : Binary64) : Binary64 :=
  x.add y.neg

/-- The greatest whole number that is not above the double; zeros, infinities and NaN stay. -/
def floor : Binary64 → Binary64
  | .finite false r => ofScaled false ((r.scaled >>> 1074) <<< 1074) 1
  | .finite true r => ofScaled true (((r.scaled + ((1 <<< 1074) - 1)) >>> 1074) <<< 1074) 1
  | x => x

instance : Add Binary64 := ⟨add⟩
instance : Sub Binary64 := ⟨sub⟩
instance : Neg Binary64 := ⟨neg⟩

end Binary64

end ProfileShell
