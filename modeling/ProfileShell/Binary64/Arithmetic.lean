import ProfileShell.Binary64.Basic

/-!
Products and quotients of doubles, rounded once.
-/

set_option autoImplicit false
set_option relaxedAutoImplicit false

namespace ProfileShell.Binary64

/-- The rounded product. A zero times an infinity is no number. -/
def mul : Binary64 → Binary64 → Binary64
  | .nan, _ => .nan
  | _, .nan => .nan
  | .infinite s, .infinite t => .infinite (s != t)
  | .infinite s, .finite t b => if b.val = 0 then .nan else .infinite (s != t)
  | .finite s a, .infinite t => if a.val = 0 then .nan else .infinite (s != t)
  | .finite s a, .finite t b => ofScaled (s != t) (a.scaled * b.scaled) (1 <<< 1074)

/-- The rounded quotient. A zero by a zero and an infinity by an infinity are no numbers, and any
other number by a zero is infinite. -/
def div : Binary64 → Binary64 → Binary64
  | .nan, _ => .nan
  | _, .nan => .nan
  | .infinite _, .infinite _ => .nan
  | .infinite s, .finite t _ => .infinite (s != t)
  | .finite s _, .infinite t => .finite (s != t) .zero
  | .finite s a, .finite t b =>
    if b.val = 0 then if a.val = 0 then .nan else .infinite (s != t)
    else ofScaled (s != t) (a.scaled <<< 1074) b.scaled

instance : Mul Binary64 := ⟨mul⟩
instance : Div Binary64 := ⟨div⟩

end ProfileShell.Binary64
