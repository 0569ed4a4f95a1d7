import ProfileShell.Proofs.Binary64.Reading
import ProfileShell.Value

/-!
The values of a type, and their texts.

The text of a value that a type can have is read as that value again.
-/

set_option autoImplicit false
set_option relaxedAutoImplicit false

namespace ProfileShell

namespace Text

private theorem readNatural_repr (n : Nat) : readNatural (Nat.repr n).toList = some n := by
  rw [Nat.toList_repr]
  exact readNatural_toDigits n

private theorem readInteger_natural (n : Nat) :
    readInteger (Nat.repr n).toList = some (n : Int) := by
  have read := readNatural_repr n
  have digits : ∀ c ∈ (Nat.repr n).toList, c.isDigit = true := by
    rw [Nat.toList_repr]
    exact Json.digits_toDigits n
  generalize (Nat.repr n).toList = cs at read digits ⊢
  have notMinus : '-' ∉ cs := fun member => absurd (digits '-' member) (by decide)
  have notPlus : '+' ∉ cs := fun member => absurd (digits '+' member) (by decide)
  unfold readInteger
  split
  · exact absurd List.mem_cons_self notMinus
  · exact absurd List.mem_cons_self notPlus
  · rw [read]
    rfl

private theorem readInteger_toString (i : Int) : readInteger (toString i).toList = some i := by
  cases i with
  | ofNat n => exact readInteger_natural n
  | negSucc n =>
    have text : (toString (Int.negSucc n)).toList = '-' :: (Nat.repr (n + 1)).toList := by
      rw [Int.toString_eq_repr]
      change ("-" ++ Nat.repr (n + 1)).toList = _
      rw [String.toList_append]
      rfl
    rw [text]
    simp only [readInteger, readNatural_repr]
    rfl

private theorem readInt64_toString (i : Int64) : readInt64 (toString i.toInt) = some i := by
  have fits : fitsInt64 i.toInt = true := by
    have low := Int64.minValue_le_toInt i
    have high := Int64.toInt_le i
    unfold fitsInt64
    rw [decide_eq_true low, decide_eq_true high]
    rfl
  unfold readInt64
  rw [readInteger_toString]
  simp [fits]

end Text

private theorem Binary64.read_toText {x : Binary64} (finite : x.isFinite = true) :
    read x.toText = some x := by
  obtain ⟨negative, r, rfl⟩ := (isFinite_iff x).mp finite
  exact read_toText_finite negative r

namespace ValueType

/-- The values of a type. A chosen word is the first of those that differ from it in the case of
ASCII letters only. -/
def Yields : ValueType → Value → Prop
  | .integer, .integer _ => True
  | .number, .number x => x.isFinite = true
  | .text, .text _ => True
  | .boolean, .boolean _ => True
  | .choice words, .text s => (words.find? fun word => Text.sameIgnoringCase word s) = some s
  | _, _ => False

variable {type : ValueType} {v : Value}

theorem yields_of_coerce {token : String} (coerced : type.coerce token = some v) :
    type.Yields v := by
  cases type with
  | integer =>
    obtain ⟨i, -, rfl⟩ := Option.map_eq_some_iff.mp coerced
    trivial
  | number =>
    obtain ⟨x, read, rfl⟩ := Option.map_eq_some_iff.mp coerced
    exact (Option.filter_eq_some_iff.mp read).2
  | text =>
    cases coerced
    trivial
  | boolean =>
    obtain ⟨b, -, rfl⟩ := Option.map_eq_some_iff.mp coerced
    trivial
  | choice words =>
    obtain ⟨word, found, rfl⟩ := Option.map_eq_some_iff.mp coerced
    -- The token and the word found for it are the same to every comparison.
    have same := List.find?_some found
    have lowered : Text.lowerAscii word = Text.lowerAscii token := beq_iff_eq.mp same
    change (words.find? fun other => Text.sameIgnoringCase other word) = some word
    rw [← found]
    simp only [Text.sameIgnoringCase, lowered]

theorem accepts_of_yields (yields : type.Yields v) : type.accepts v = true := by
  cases type <;> cases v <;> try exact absurd yields id
  case integer.integer i => rfl
  case number.number x => exact yields
  case text.text s => rfl
  case boolean.boolean b => rfl
  case choice.text words s =>
    have found : (words.find? fun word => Text.sameIgnoringCase word s) = some s := yields
    have same : Text.sameIgnoringCase s s = true := beq_self_eq_true _
    exact List.any_eq_true.mpr ⟨s, List.mem_of_find?_eq_some found, same⟩

/-- A choice accepts the texts that one of its words matches in any case of the letters. -/
theorem accepts_choice_iff (words : List String) (v : Value) :
    (choice words).accepts v = true ↔
      ∃ s, v = .text s ∧ ∃ word ∈ words, Text.sameIgnoringCase word s = true := by
  cases v <;> simp [accepts]

/-- The text of a value is read as that value. -/
theorem coerce_display (yields : type.Yields v) : type.coerce v.display = some v := by
  cases type <;> cases v <;> try exact absurd yields id
  case integer.integer i =>
    simp only [coerce, Value.display, Text.readInt64_toString, Option.map_some]
  case number.number x =>
    have finite : x.isFinite = true := yields
    simp only [coerce, readNumber, Value.display, Binary64.read_toText finite]
    simp [finite]
  case text.text s => rfl
  case boolean.boolean b => cases b <;> decide +kernel
  case choice.text words s =>
    have found : (words.find? fun word => Text.sameIgnoringCase word s) = some s := yields
    simp only [coerce, Value.display, found, Option.map_some]

theorem yields_iff (type : ValueType) (v : Value) :
    type.Yields v ↔ ∃ token, type.coerce token = some v :=
  ⟨fun yields => ⟨v.display, coerce_display yields⟩, fun ⟨_, coerced⟩ => yields_of_coerce coerced⟩

end ValueType

end ProfileShell
