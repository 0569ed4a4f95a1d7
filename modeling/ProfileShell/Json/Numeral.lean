import ProfileShell.Binary64.Arithmetic

/-!
Numbers in JSON text, and the doubles that they are read as.

A number is kept as it is written. It is read as a double in two steps, each of which rounds: its
digits, as many of them as a 64-bit word holds, give the nearest double, and that is multiplied or
divided by a power of ten. So a number of many digits may be read as a neighbour of the nearest
double.
-/

set_option autoImplicit false
set_option relaxedAutoImplicit false

namespace ProfileShell.Json

/-- A number as written: a sign, the digits before and after the point, and an exponent. -/
structure Numeral where
  negative : Bool
  whole : List Char
  fraction : List Char
  exponent : Option Int
  deriving DecidableEq

def digits? (cs : List Char) : Option (List Char × List Char) :=
  let digits := cs.takeWhile Char.isDigit
  if digits.isEmpty then none else some (digits, cs.dropWhile Char.isDigit)

def wholePart? : List Char → Option (List Char × List Char)
  | '0' :: cs => some (['0'], cs)
  | cs => digits? cs

def fraction? : List Char → Option (List Char × List Char)
  | '.' :: cs => digits? cs
  | cs => some ([], cs)

def exponentDigits? : List Char → Option (Int × List Char)
  | '-' :: cs => (digits? cs).map fun (ds, rest) => (-(Nat.ofDigitChars 10 ds 0 : Int), rest)
  | '+' :: cs => (digits? cs).map fun (ds, rest) => ((Nat.ofDigitChars 10 ds 0 : Int), rest)
  | cs => (digits? cs).map fun (ds, rest) => ((Nat.ofDigitChars 10 ds 0 : Int), rest)

def exponent? : List Char → Option (Option Int × List Char)
  | c :: cs =>
    if c == 'e' || c == 'E' then (exponentDigits? cs).map fun (e, rest) => (some e, rest)
    else some (none, c :: cs)
  | [] => some (none, [])

/-- A number without its sign, and what follows it. -/
def numeral? (negative : Bool) (cs : List Char) : Option (Numeral × List Char) := do
  let (whole, cs) ← wholePart? cs
  let (fraction, cs) ← fraction? cs
  let (exponent, cs) ← exponent? cs
  some ({ negative, whole, fraction, exponent }, cs)

namespace Numeral

def isWhole (n : Numeral) : Bool :=
  n.fraction.isEmpty && n.exponent.isNone

/-- The whole number written by a numeral without fraction and exponent, a negative zero apart, in
the range of 64-bit numbers with or without sign. -/
def int? (n : Numeral) : Option Int :=
  let magnitude := Nat.ofDigitChars 10 n.whole 0
  if n.isWhole && !(n.negative && magnitude == 0) then
    let i : Int := if n.negative then -magnitude else magnitude
    if Int64.minValue.toInt ≤ i && i < (UInt64.size : Nat) then some i else none
  else none

/-- Take digits into a number as long as it fits a 64-bit word; the digits that are left follow. -/
def takeDigits (word : Nat) : List Char → Nat × List Char
  | [] => (word, [])
  | d :: ds =>
    let more := word * 10 + (d.toNat - '0'.toNat)
    if more < UInt64.size then takeDigits more ds else (word, d :: ds)

/-- The digits that a word holds and the power of ten that the word counts. Digits that are left
before the point raise the power; those that are left after it do not count. -/
def word (n : Numeral) : Nat × Int :=
  let (word, unread) := takeDigits 0 n.whole
  let (word, rest) := takeDigits word n.fraction
  (word, n.exponent.getD 0 + unread.length - (n.fraction.length - rest.length : Nat))

def maxPower : Nat := 308

def power (exponent : Nat) : Binary64 :=
  .ofScaled false (Nat.pow 10 exponent <<< 1074) 1

/-- A double times a power of ten. A power below all doubles is divided out in two steps, a power
above all doubles is multiplied with nothing but zero. -/
def timesPower (x : Binary64) (exponent : Int) : Option Binary64 :=
  if exponent < -maxPower then
    some (x / power maxPower / power (min maxPower (exponent.natAbs - maxPower)))
  else if exponent < 0 then some (x / power exponent.natAbs)
  else if exponent ≤ maxPower then some (x * power exponent.natAbs)
  else if x = .zero then some x
  else none

/-- The double that a numeral is read as, unless it is too large. -/
def double? (n : Numeral) : Option Binary64 := do
  let (word, exponent) := n.word
  let x ← timesPower (.ofInt word) exponent
  if x.isFinite then some (if n.negative then -x else x) else none

end Numeral

end ProfileShell.Json
