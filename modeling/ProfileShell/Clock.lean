import ProfileShell.Binary64.Basic

/-!
The clock: a sequence of readings, taken one after another.
-/

set_option autoImplicit false
set_option relaxedAutoImplicit false

namespace ProfileShell

/-- The readings of a clock, in billionths of a second after the epoch, and how many have been
taken. -/
structure Clock where
  reading : Nat → Int
  taken : Nat

namespace Clock

/-- A clock that starts at a time and goes on by equal steps, both given in milliseconds. -/
def regular (start step : Int) : Clock :=
  ⟨fun i => (start + i * step) * 1000000, 0⟩

/-- A reading in seconds: whole seconds and the rest, each rounded and then added. Times before the
epoch count as the epoch. -/
def seconds (nanoseconds : Int) : Binary64 :=
  if nanoseconds < 0 then .zero
  else
    let ns := nanoseconds.toNat
    Binary64.ofInt (ns / 1000000000 : Nat) + Binary64.ofQuotient (ns % 1000000000) 1000000000

def now (c : Clock) : Binary64 :=
  seconds (c.reading c.taken)

def tick (c : Clock) : Clock :=
  { c with taken := c.taken + 1 }

end Clock

end ProfileShell
