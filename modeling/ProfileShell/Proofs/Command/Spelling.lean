import ProfileShell.Proofs.Command.Grammar

/-!
How texts are written as the words of a line.

Any text can be written between quotes, with a backslash before every quote of the kind and every
backslash; a text that is not empty can also be written without quotes, with a backslash before
every character. Whatever is chosen for each text, and whatever blanks stand between them and around
them, the texts are the words of the line.
-/

set_option autoImplicit false
set_option relaxedAutoImplicit false

namespace ProfileShell.Command

inductive Style
  | quoted (q : Quote)
  | bare
  deriving DecidableEq

/-- A text and the way it is written. Without quotes an empty text would leave no trace. -/
structure Spelling where
  text : String
  style : Style
  visible : style = .bare → text ≠ ""

def Quote.escape (q : Quote) (c : Char) : List Char :=
  if c = q.mark ∨ c = '\\' then ['\\', c] else [c]

def Spelling.chars (s : Spelling) : List Char :=
  match s.style with
  | .quoted q => q.mark :: (s.text.toList.flatMap q.escape ++ [q.mark])
  | .bare => s.text.toList.flatMap fun c => ['\\', c]

/-- Spelled texts with a gap after each but the last; `gap i` is the one after text number `i`. -/
def spelledChars (gap : Nat → Gap) : List Spelling → List Char
  | [] => []
  | [s] => s.chars
  | s :: t :: rest =>
    s.chars ++ ((gap 0).blanks.map Subtype.val ++ spelledChars (fun i => gap (i + 1)) (t :: rest))

def spelledLine (leading : List Blank) (gap : Nat → Gap) (spellings : List Spelling)
    (trailing : List Blank) : String :=
  String.ofList (leading.map Subtype.val ++
    (spelledChars gap spellings ++ trailing.map Subtype.val))

def Quote.letter (q : Quote) (c : Char) : Letter q.admits :=
  if admitted : q.admits c = true then .bare c admitted else .escaped c

namespace Quote

private theorem value_letter (q : Quote) (c : Char) : (q.letter c).value = c := by
  unfold letter
  split <;> rfl

private theorem chars_letter (q : Quote) (c : Char) : (q.letter c).chars = q.escape c := by
  have special : q.admits c = true ↔ ¬(c = q.mark ∨ c = '\\') := by
    simp [Quote.admits]
  unfold letter escape
  by_cases admitted : q.admits c = true
  · rw [dif_pos admitted, if_neg (special.mp admitted)]
    rfl
  · have escaped : c = q.mark ∨ c = '\\' := Decidable.not_not.mp (mt special.mpr admitted)
    rw [dif_neg admitted, if_pos escaped]
    rfl

end Quote

namespace Spelling

private theorem exists_word (s : Spelling) :
    ∃ w : Word, w.chars = s.chars ∧ w.value = s.text.toList := by
  obtain ⟨text, style, visible⟩ := s
  cases style with
  | quoted q =>
    have chars : (text.toList.map q.letter).flatMap Letter.chars =
        text.toList.flatMap q.escape := by
      simp only [List.flatMap_map, Quote.chars_letter]
    have value : (text.toList.map q.letter).map Letter.value = text.toList := by
      simp only [List.map_map, Function.comp_def, Quote.value_letter, List.map_id']
    refine ⟨⟨.quoted q (text.toList.map q.letter), []⟩, ?_, ?_⟩
    · simp [Word.chars, Word.pieces, Piece.chars, Spelling.chars, chars]
    · simp [Word.value, Word.pieces, Piece.value, value]
  | bare =>
    -- Every character is a piece of its own, so there has to be one.
    obtain ⟨c, cs, letters⟩ : ∃ c cs, text.toList = c :: cs := by
      apply List.exists_cons_of_ne_nil
      simpa using visible rfl
    refine ⟨⟨.letter (.escaped c), cs.map fun d => .letter (.escaped d)⟩, ?_, ?_⟩
    · simp only [Word.chars, Word.pieces, Spelling.chars, letters, List.flatMap_cons,
        List.flatMap_map, Piece.chars, Letter.chars]
    · simp [Word.value, Word.pieces, letters, List.flatMap_map, Piece.value, Letter.value]

end Spelling

section Words

private theorem wordsFrom_trailing (read : List Char) (trailing : List Blank) :
    wordsFrom (some read) none (trailing.map Subtype.val) = [read.reverse] := by
  cases trailing with
  | nil => simp [wordsFrom]
  | cons b bs =>
    have gap := wordsFrom_gap [] read ⟨b, bs⟩
    rw [List.append_nil] at gap
    rw [Gap.blanks] at gap
    rw [gap]
    rfl

private theorem wordsFrom_spelled (gap : Nat → Gap) (spellings : List Spelling)
    (trailing : List Blank) :
    wordsFrom none none (spelledChars gap spellings ++ trailing.map Subtype.val) =
      spellings.map fun s => s.text.toList := by
  induction spellings generalizing gap with
  | nil =>
    have blanks := wordsFrom_blanks [] trailing
    rw [List.append_nil] at blanks
    rw [spelledChars, List.nil_append, blanks]
    rfl
  | cons s spellings ih =>
    obtain ⟨w, chars, value⟩ := s.exists_word
    cases spellings with
    | nil =>
      rw [spelledChars, ← chars, wordsFrom_word, wordsFrom_trailing, value, List.reverse_reverse]
      rfl
    | cons t rest =>
      rw [spelledChars, List.append_assoc, List.append_assoc, ← chars, wordsFrom_word,
        wordsFrom_gap, ih, value, List.reverse_reverse]
      rfl

theorem words_spelledLine (leading : List Blank) (gap : Nat → Gap) (spellings : List Spelling)
    (trailing : List Blank) :
    words (spelledLine leading gap spellings trailing) = spellings.map Spelling.text := by
  unfold words spelledLine
  rw [String.toList_ofList, wordsFrom_blanks, wordsFrom_spelled]
  simp [Function.comp_def]

end Words

/-- A line of spelled texts is split into these texts, whatever their spellings and the blanks
between them and around them are: the first is the command word, and the others are its arguments.
-/
theorem ofText_spelledLine (leading : List Blank) (gap : Nat → Gap) (spellings : List Spelling)
    (trailing : List Blank) :
    Line.ofText (spelledLine leading gap spellings trailing) =
      ⟨(spellings.map Spelling.text).headD "", (spellings.map Spelling.text).tail⟩ := by
  unfold Line.ofText
  rw [words_spelledLine]
  cases spellings.map Spelling.text <;> rfl

example : spelledLine [] (fun _ => ⟨⟨' ', by decide⟩, []⟩)
    [⟨"a\"b", .quoted .double, nofun⟩, ⟨"", .quoted .single, nofun⟩, ⟨"c d", .bare, by decide⟩] [] =
      "\"a\\\"b\" '' \\c\\ \\d" := by decide +kernel

end ProfileShell.Command
