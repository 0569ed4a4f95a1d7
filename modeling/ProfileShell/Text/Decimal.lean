/-!
Whole numbers in decimal notation. Writing is `Nat.repr`; reading takes a non-empty run of ASCII
digits, and for signed numbers one optional sign before it.
-/

set_option autoImplicit false
set_option relaxedAutoImplicit false

namespace ProfileShell.Text

def readNatural (cs : List Char) : Option Nat :=
  if cs.isEmpty || !cs.all Char.isDigit then none else some (Nat.ofDigitChars 10 cs 0)

def readInteger : List Char → Option Int
  | '-' :: cs => (readNatural cs).map fun n => -(n : Int)
  | '+' :: cs => (readNatural cs).map fun n => (n : Int)
  | cs => (readNatural cs).map fun n => (n : Int)

/-- Signed 64-bit numbers are exactly those from the least to the greatest one. -/
def fitsInt64 (i : Int) : Bool :=
  Int64.minValue.toInt ≤ i && i ≤ Int64.maxValue.toInt

def readInt64 (s : String) : Option Int64 :=
  match readInteger s.toList with
  | some i => if fitsInt64 i then some (Int64.ofInt i) else none
  | none => none

theorem readNatural_toDigits (n : Nat) : readNatural (Nat.toDigits 10 n) = some n := by
  have digits : (Nat.toDigits 10 n).all Char.isDigit = true := by
    simpa using fun c hc => Nat.isDigit_of_mem_toDigits (by decide) (by decide) hc
  have nonempty : (Nat.toDigits 10 n).isEmpty = false := by
    simp [Nat.toDigits_ne_nil]
  simp [readNatural, digits, nonempty, Nat.ofDigitChars_toDigits]

end ProfileShell.Text
