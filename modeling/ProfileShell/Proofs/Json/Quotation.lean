import ProfileShell.Json.Printer
import ProfileShell.Json.Token

/-!
Texts in JSON are read back as they were.

Each character is written as itself or as an escape; either is read as that one character, so a
quoted text comes to its characters and to what follows the closing quote.
-/

set_option autoImplicit false
set_option relaxedAutoImplicit false

namespace ProfileShell.Json

private theorem hexNumber?_unit :
    ∀ n < 0x20, Text.hexNumber? ['0', '0', hexChar (n / 16), hexChar (n % 16)] = some n := by
  decide

private theorem ofUnit_toNat {c : Char} (control : c.toNat < 0x20) :
    Piece.ofUnit c.toNat = .char c := by
  unfold Piece.ofUnit
  have low : ¬(0xD800 ≤ c.toNat) := by omega
  simp [low, Char.ofNat_toNat]

private def consPiece (c : Char) (body : List Piece × List Char) : List Piece × List Char :=
  (.char c :: body.1, body.2)

private theorem textBody_unit {c : Char} (control : c.toNat < 0x20) (cs : List Char) :
    textBody ('\\' :: 'u' :: '0' :: '0' :: hexChar (c.toNat / 16) :: hexChar (c.toNat % 16) :: cs) =
      (textBody cs).map (consPiece c) := by
  have unit := hexNumber?_unit c.toNat control
  have piece := ofUnit_toNat control
  cases body : textBody cs <;> simp [textBody, unit, piece, body, consPiece]

private theorem textBody_plain {c : Char} (quote : c ≠ '"') (backslash : c ≠ '\\')
    (printable : ¬c.toNat < 0x20) (cs : List Char) :
    textBody (c :: cs) = (textBody cs).map (consPiece c) := by
  rw [textBody.eq_def (c :: cs)]
  split
  · rename_i impossible
    cases impossible
  · rename_i same
    cases same
    exact absurd rfl quote
  · rename_i same
    cases same
    exact absurd rfl backslash
  · rename_i same
    cases same
    exact absurd rfl backslash
  · rename_i same
    cases same
    cases body : textBody cs <;> simp [printable, backslash, consPiece]

private theorem textBody_charChars (c : Char) (cs : List Char) :
    textBody (charChars c ++ cs) = (textBody cs).map (consPiece c) := by
  unfold charChars
  split
  case h_8 quote backslash _ _ _ _ _ =>
    split
    · rename_i control
      exact textBody_unit control cs
    · rename_i printable
      exact textBody_plain quote backslash printable cs
  all_goals cases body : textBody cs <;> simp [textBody, escaped?, body, consPiece]

private theorem textBody_flatMap (cs rest : List Char) :
    textBody (cs.flatMap charChars ++ '"' :: rest) = some (cs.map .char, rest) := by
  induction cs with
  | nil => simp [textBody]
  | cons c cs ih =>
    rw [List.flatMap_cons, List.append_assoc, textBody_charChars, ih]
    rfl

private theorem joinPieces_map_char (cs : List Char) : joinPieces (cs.map .char) = some cs := by
  induction cs with
  | nil => rfl
  | cons c cs ih => simp [joinPieces, ih]

theorem token?_textChars (s : String) (rest : List Char) :
    token? (textChars s ++ rest) = some (.text (some s), rest) := by
  have body := textBody_flatMap s.toList rest
  simp only [textChars, List.cons_append, List.append_assoc, List.nil_append, token?]
  rw [body]
  simp [joinPieces_map_char]

end ProfileShell.Json
