import Mathlib.Data.Nat.Basic
import Mathlib.Tactic.SplitIfs

/-!
The order of texts is that of their bytes.

A character has more bytes the greater it is, and its first byte tells how many. Of two characters
with as many bytes, the digits of the greater one to the base sixty-four, which its bytes hold, come
later in the order of digits.
-/

set_option autoImplicit false
set_option relaxedAutoImplicit false

namespace ProfileShell.Text

def bytes (s : String) : List UInt8 :=
  s.toUTF8.data.toList

private theorem bytes_eq (s : String) : bytes s = s.toList.flatMap String.utf8EncodeChar := by
  have whole : bytes (String.ofList s.toList) = s.toList.flatMap String.utf8EncodeChar :=
    List.toList_data_toByteArray
  rwa [String.ofList_toList] at whole

theorem bytes_injective {s t : String} (same : bytes s = bytes t) : s = t := by
  apply String.toByteArray_inj.mp
  exact ByteArray.ext (Array.toList_inj.mp same)

/-- The last digit to the base sixty-four decides only where those before it are the same. -/
private theorem lt_digits {n m : Nat} (less : n < m) :
    n / 64 < m / 64 ∨ n / 64 = m / 64 ∧ n % 64 < m % 64 := by
  omega

private theorem encode_append_lt {c d : Char} (less : c < d) (rest others : List UInt8) :
    String.utf8EncodeChar c ++ rest < String.utf8EncodeChar d ++ others := by
  have less : c.val.toNat < d.val.toNat := less
  have bound : d.val.toNat < 1114112 := by
    rcases d.valid with low | high
    · exact Nat.lt_trans low (by decide)
    · exact high.2
  unfold String.utf8EncodeChar
  generalize c.val.toNat = n at *
  generalize d.val.toNat = m at *
  have last := lt_digits less
  have third (less : n / 64 < m / 64) := lt_digits less
  have second (less : n / 64 / 64 < m / 64 / 64) := lt_digits less
  simp only [Nat.div_div_eq_div_mul, Nat.reduceMul] at third second
  -- Each byte holds its mark and digit without a carry.
  have digit (k : Nat) : (k % 64 + 128) % 256 = k % 64 + 128 := by omega
  have firstOfTwo (k : Nat) : (k % 32 + 192) % 256 = k % 32 + 192 := by omega
  have firstOfThree (k : Nat) : (k % 16 + 224) % 256 = k % 16 + 224 := by omega
  have firstOfFour (k : Nat) (below : k < 1114112) :
      (k / 262144 % 8 + 240) % 256 = k / 262144 + 240 := by omega
  have n_first := firstOfFour n (by omega)
  have m_first := firstOfFour m bound
  simp only
  split_ifs <;>
    simp only [List.cons_append, List.nil_append, List.cons_lt_cons_iff, UInt8.lt_iff_toNat_lt,
      ← UInt8.toNat_inj, UInt8.toNat_ofNat', Nat.reducePow, digit, firstOfTwo, firstOfThree,
      n_first, m_first] <;>
    omega

private theorem flatMap_encode_lt {cs ds : List Char} (less : cs < ds) :
    cs.flatMap String.utf8EncodeChar < ds.flatMap String.utf8EncodeChar := by
  induction cs generalizing ds with
  | nil =>
    cases ds with
    | nil => exact absurd less (List.lt_irrefl [])
    | cons d ds =>
      obtain ⟨b, bs, same⟩ := List.exists_cons_of_ne_nil (String.utf8EncodeChar_ne_nil (c := d))
      rw [List.flatMap_nil, List.flatMap_cons, same]
      exact List.nil_lt_cons b _
  | cons c cs ih =>
    cases ds with
    | nil => exact absurd less (List.not_lt_nil _)
    | cons d ds =>
      rw [List.flatMap_cons, List.flatMap_cons]
      rcases List.cons_lt_cons_iff.mp less with first | ⟨rfl, later⟩
      · exact encode_append_lt first _ _
      · exact List.append_left_lt (ih later)

theorem bytes_lt_bytes {s t : String} (less : s < t) : bytes s < bytes t := by
  rw [bytes_eq, bytes_eq]
  exact flatMap_encode_lt (String.lt_iff.mp less)

end ProfileShell.Text
