import ProfileShell.Binary64.Decimal
import ProfileShell.Text.Hexadecimal

/-!
Numbers in TOML.

Whole numbers are those of 64 bits with sign; they are written in decimal, or without sign in
another base. Doubles are decimal numbers with a fraction or an exponent, infinities and NaN; a
positive number that is too large for a double is refused.
-/

set_option autoImplicit false
set_option relaxedAutoImplicit false

namespace ProfileShell.Toml

inductive Number
  | integer (i : Int)
  | double (x : Binary64)
  deriving DecidableEq

/-- Digits at the front, and what follows them. A single underscore may stand between two digits. -/
def digitRun? (isDigit : Char → Bool) : List Char → Option (List Char × List Char)
  | [] => none
  | c :: cs =>
    if !isDigit c then none
    else
      match cs with
      | [] => some ([c], [])
      | d :: rest =>
        if d == '_' then (digitRun? isDigit rest).map fun (ds, after) => (c :: ds, after)
        else if isDigit d then
          (digitRun? isDigit (d :: rest)).map fun (ds, after) => (c :: ds, after)
        else some ([c], d :: rest)

def integer? (i : Int) : Option Number :=
  if Text.fitsInt64 i then some (.integer i) else none

def isDigitOf (base : Nat) (c : Char) : Bool :=
  match Text.hexDigit? c with
  | some n => n < base
  | none => false

def ofDigits (base : Nat) (digits : List Char) : Nat :=
  digits.foldl (fun n c => base * n + (Text.hexDigit? c).getD 0) 0

def based? (base : Nat) (cs : List Char) : Option (Number × List Char) := do
  let (digits, rest) ← digitRun? (isDigitOf base) cs
  let number ← integer? (ofDigits base digits)
  some (number, rest)

/-- The fraction of a number, if a point comes next. -/
def fractionDigits? : List Char → Option (Option (List Char) × List Char)
  | '.' :: cs => (digitRun? Char.isDigit cs).map fun (ds, rest) => (some ds, rest)
  | cs => some (none, cs)

def sign : List Char → Bool × List Char
  | '-' :: cs => (true, cs)
  | '+' :: cs => (false, cs)
  | cs => (false, cs)

def exponent? : List Char → Option (Option Int × List Char)
  | [] => some (none, [])
  | c :: cs =>
    if c == 'e' || c == 'E' then
      let (negative, cs) := sign cs
      (digitRun? Char.isDigit cs).map fun (ds, rest) =>
        let e : Int := Nat.ofDigitChars 10 ds 0
        (some (if negative then -e else e), rest)
    else some (none, c :: cs)

def decimal? (negative : Bool) (cs : List Char) : Option (Number × List Char) := do
  let (whole, cs) ← digitRun? Char.isDigit cs
  if whole.head? = some '0' ∧ whole ≠ ['0'] then none
  else
    let (fraction, cs) ← fractionDigits? cs
    let (exponent, cs) ← exponent? cs
    if fraction.isNone ∧ exponent.isNone then
      let n : Int := Nat.ofDigitChars 10 whole 0
      let number ← integer? (if negative then -n else n)
      some (number, cs)
    else
      let digits := fraction.getD []
      let x := Binary64.ofDecimal negative (Nat.ofDigitChars 10 (whole ++ digits) 0)
        (exponent.getD 0 - digits.length)
      if x = .infinite false then none else some (.double x, cs)

def unsigned? (negative : Bool) : List Char → Option (Number × List Char)
  | 'i' :: 'n' :: 'f' :: cs => some (.double (.infinite negative), cs)
  | 'n' :: 'a' :: 'n' :: cs => some (.double .nan, cs)
  | cs => decimal? negative cs

def number? : List Char → Option (Number × List Char)
  | '0' :: 'x' :: cs => based? 16 cs
  | '0' :: 'o' :: cs => based? 8 cs
  | '0' :: 'b' :: cs => based? 2 cs
  | cs => unsigned? (sign cs).1 (sign cs).2

end ProfileShell.Toml
