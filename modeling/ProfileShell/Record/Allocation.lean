import ProfileShell.Record.Identifier

/-!
Identifiers that are free: the wanted one, or the first of it numbered from one upwards.

Identifiers are compared as they are; a wanted identifier that ends in a number is numbered again
and not continued. The numbers have 64 bits. Against a list the search needs no such end: among one
more candidates than there are taken identifiers one is free.
-/

set_option autoImplicit false
set_option relaxedAutoImplicit false

namespace ProfileShell.Record

/-- The candidates for a wanted identifier: itself, then numbered. -/
def candidate (base : String) : Nat → String
  | 0 => base
  | k + 1 => base ++ "_" ++ toString (k + 1)

theorem toNat_add_one {k : UInt64} (fits : k.toNat + 1 < UInt64.size) :
    (k + 1).toNat = k.toNat + 1 := by
  rw [UInt64.toNat_add]
  exact Nat.mod_eq_of_lt fits

/-- The first candidate numbered from `k` on that is not taken. The numbers have 64 bits. Where the
last of them is taken too the sum overflows, and there is no candidate to answer. -/
def numberFrom (taken : String → Bool) (base : String) (k : UInt64) : Option String :=
  let id := base ++ "_" ++ toString k
  if taken id then
    if fits : k.toNat + 1 < UInt64.size then numberFrom taken base (k + 1) else none
  else some id
termination_by UInt64.size - k.toNat
decreasing_by
  have next := toNat_add_one fits
  omega

/-- The first candidate that a test leaves free, if its number has 64 bits. -/
def allocateWith (taken : String → Bool) (base : String) : Option String :=
  if taken base then numberFrom taken base 1 else some base

/-- The first candidate whose UTF-8 form has at least a given length; a panic if the count overflows
before it. -/
def allocateOfSize (base : String) (bytes : Nat) : String :=
  (allocateWith (fun id => id.utf8ByteSize < bytes) base).get!

/-- The first candidate from number `k` on that is not taken; the one `bound` further on is not
tested. -/
def firstFree (taken : String → Bool) (base : String) (k : Nat) : Nat → String
  | 0 => candidate base k
  | bound + 1 =>
    if taken (candidate base k) then firstFree taken base (k + 1) bound else candidate base k

/-- The first candidate that a list leaves free. -/
def allocate (base : String) (taken : List String) : String :=
  firstFree taken.contains base 0 taken.length

/-- The file name of the first candidate whose file is not among some files; files with other
extensions do not count. -/
def allocateFileName (base : String) (files : List String) (extension : String) : String :=
  fileName (allocate base (files.filterMap fun name => stem? name extension)) extension

end ProfileShell.Record
