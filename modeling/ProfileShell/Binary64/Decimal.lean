import ProfileShell.Binary64.Basic
import ProfileShell.Text.Decimal
import ProfileShell.Text.Ascii

/-!
Doubles read from decimal notation, correctly rounded.
-/

set_option autoImplicit false
set_option relaxedAutoImplicit false

namespace ProfileShell.Binary64

/-- The double nearest to `significand * 10 ^ exponent`. Exponents past every double are answered
without computing the power. -/
def ofDecimal (negative : Bool) (significand : Nat) (exponent : Int) : Binary64 :=
  if significand = 0 then .finite negative .zero
  else if 400 < exponent then .infinite negative
  else if exponent < -(significand.log2 + 400 : Nat) then .finite negative .zero
  else if 0 ≤ exponent then ofScaled negative ((significand * Nat.pow 10 exponent.toNat) <<< 1074) 1
  else ofScaled negative (significand <<< 1074) (Nat.pow 10 (-exponent).toNat)

/-- The exponent that ends a number: nothing, or the letter e and a signed whole number. -/
def readExponent : List Char → Option Int
  | [] => some 0
  | c :: cs => if c == 'e' || c == 'E' then Text.readInteger cs else none

/-- Digits with at most one point among or beside them, then an optional exponent. -/
def readUnsigned (negative : Bool) (cs : List Char) : Option Binary64 :=
  let whole := cs.takeWhile Char.isDigit
  let rest := cs.dropWhile Char.isDigit
  let (fraction, rest) :=
    match rest with
    | '.' :: after => (after.takeWhile Char.isDigit, after.dropWhile Char.isDigit)
    | _ => ([], rest)
  if whole.isEmpty && fraction.isEmpty then none
  else
    (readExponent rest).map fun exponent =>
      ofDecimal negative (Nat.ofDigitChars 10 (whole ++ fraction) 0) (exponent - fraction.length)

/-- A number, an infinity or NaN by its letters in any case, without a sign. -/
def readMagnitude (negative : Bool) (cs : List Char) : Option Binary64 :=
  let letters := String.ofList (cs.map Char.toLower)
  if letters == "inf" || letters == "infinity" then some (.infinite negative)
  else if letters == "nan" then some .nan
  else readUnsigned negative cs

def read (s : String) : Option Binary64 :=
  match s.toList with
  | '-' :: cs => readMagnitude true cs
  | '+' :: cs => readMagnitude false cs
  | cs => readMagnitude false cs

end ProfileShell.Binary64
