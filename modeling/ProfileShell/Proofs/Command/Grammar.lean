import Mathlib.Logic.ExistsUnique
import ProfileShell.Command.Line

/-!
The grammar of command lines.

A word is made of pieces: plain characters, characters behind a backslash, and quoted parts. Blanks
separate words. The last word may end in a part whose quote is never closed, and a lone backslash
may end the line. Every line has exactly one reading in this grammar, and its words are the values
of the words of that reading.
-/

set_option autoImplicit false
set_option relaxedAutoImplicit false

namespace ProfileShell.Command

inductive Quote
  | single
  | double
  deriving DecidableEq

def Quote.mark : Quote → Char
  | .single => '\''
  | .double => '"'

/-- A character that stands for itself inside the quotes. -/
def Quote.admits (q : Quote) (c : Char) : Bool :=
  c != q.mark && c != '\\'

/-- A character that stands for itself outside of quotes. -/
def isPlain (c : Char) : Bool :=
  !(Text.isBlank c || c == '\'' || c == '"' || c == '\\')

/-- A character that stands for itself, or any character behind a backslash. -/
inductive Letter (admits : Char → Bool)
  | bare (c : Char) (admitted : admits c = true)
  | escaped (c : Char)

namespace Letter

variable {admits : Char → Bool}

def chars : Letter admits → List Char
  | .bare c _ => [c]
  | .escaped c => ['\\', c]

def value : Letter admits → Char
  | .bare c _ => c
  | .escaped c => c

end Letter

inductive Piece
  | letter (l : Letter isPlain)
  | quoted (q : Quote) (body : List (Letter q.admits))

def Piece.chars : Piece → List Char
  | .letter l => l.chars
  | .quoted q body => q.mark :: (body.flatMap Letter.chars ++ [q.mark])

def Piece.value : Piece → List Char
  | .letter l => [l.value]
  | .quoted _ body => body.map Letter.value

/-- Pieces without a blank between them; there is at least one. -/
structure Word where
  first : Piece
  rest : List Piece

namespace Word

def pieces (w : Word) : List Piece :=
  w.first :: w.rest

def chars (w : Word) : List Char :=
  w.pieces.flatMap Piece.chars

def value (w : Word) : List Char :=
  w.pieces.flatMap Piece.value

end Word

abbrev Blank : Type :=
  { c : Char // Text.isBlank c = true }

/-- The blanks after a word; there is at least one. -/
structure Gap where
  first : Blank
  rest : List Blank

def Gap.blanks (g : Gap) : List Blank :=
  g.first :: g.rest

inductive Ending
  | nothing
  | word (w : Word)
  /-- A word whose last quote is never closed. -/
  | unclosed (front : List Piece) (q : Quote) (body : List (Letter q.admits))

namespace Ending

def chars : Ending → List Char
  | .nothing => []
  | .word w => w.chars
  | .unclosed front q body =>
    front.flatMap Piece.chars ++ q.mark :: body.flatMap Letter.chars

def value : Ending → Option (List Char)
  | .nothing => none
  | .word w => some w.value
  | .unclosed front _ body => some (front.flatMap Piece.value ++ body.map Letter.value)

end Ending

/-- A line in the grammar; the flag tells whether a lone backslash ends it. -/
structure Reading where
  leading : List Blank
  spaced : List (Word × Gap)
  ending : Ending
  stray : Bool

namespace Reading

def spacedChars (spaced : List (Word × Gap)) : List Char :=
  spaced.flatMap fun entry => entry.1.chars ++ entry.2.blanks.map Subtype.val

def strayChars (stray : Bool) : List Char :=
  if stray then ['\\'] else []

def chars (r : Reading) : List Char :=
  r.leading.map Subtype.val ++
    (spacedChars r.spaced ++ (r.ending.chars ++ strayChars r.stray))

def values (r : Reading) : List (List Char) :=
  r.spaced.map (fun entry => entry.1.value) ++ r.ending.value.toList

end Reading

section Words

/-! The words of a line that is given part by part. -/

variable {word : Option (List Char)} (cs : List Char)

private theorem wordsFrom_escaped (quote : Option Char) (c : Char) :
    wordsFrom word quote ('\\' :: c :: cs) = wordsFrom (some (c :: word.getD [])) quote cs := by
  rw [wordsFrom]

private theorem wordsFrom_inside {c : Char} (q : Char) (other : c ≠ '\\') :
    wordsFrom word (some q) (c :: cs) =
      if c = q then wordsFrom (some (word.getD [])) none cs
      else wordsFrom (some (c :: word.getD [])) (some q) cs := by
  rw [wordsFrom]
  · exact fun same _ => other same
  · exact fun _ _ same _ => other same

private theorem wordsFrom_plain {c : Char} (plain : isPlain c = true) :
    wordsFrom word none (c :: cs) = wordsFrom (some (c :: word.getD [])) none cs := by
  simp only [isPlain, Bool.not_eq_true', Bool.or_eq_false_iff, beq_eq_false_iff_ne] at plain
  obtain ⟨⟨⟨notBlank, notSingle⟩, notDouble⟩, notBackslash⟩ := plain
  cases word <;> rw [wordsFrom] <;> simp [notBlank, notSingle, notDouble, notBackslash]

private theorem wordsFrom_mark (q : Quote) :
    wordsFrom word none (q.mark :: cs) = wordsFrom (some (word.getD [])) (some q.mark) cs := by
  cases word <;> cases q <;> simp [Quote.mark, wordsFrom]

private theorem blank_ne {b : Char} (blank : Text.isBlank b = true) :
    b ≠ '\'' ∧ b ≠ '"' ∧ b ≠ '\\' := by
  refine ⟨?_, ?_, ?_⟩ <;> rintro rfl <;> revert blank <;> decide

private theorem wordsFrom_blank (b : Blank) :
    wordsFrom word none (b.val :: cs) =
      (word.map List.reverse).toList ++ wordsFrom none none cs := by
  obtain ⟨notSingle, notDouble, notBackslash⟩ := blank_ne b.property
  cases word <;> rw [wordsFrom] <;> simp [b.property, notSingle, notDouble, notBackslash]

private theorem wordsFrom_body (q : Quote) (body : List (Letter q.admits)) (read : List Char) :
    wordsFrom (some read) (some q.mark) (body.flatMap Letter.chars ++ cs) =
      wordsFrom (some ((body.map Letter.value).reverse ++ read)) (some q.mark) cs := by
  induction body generalizing read with
  | nil => rfl
  | cons l body ih =>
    have letter : wordsFrom (some read) (some q.mark)
        (l.chars ++ (body.flatMap Letter.chars ++ cs)) =
          wordsFrom (some (l.value :: read)) (some q.mark) (body.flatMap Letter.chars ++ cs) := by
      cases l with
      | escaped c => exact wordsFrom_escaped _ _ c
      | bare c admitted =>
        simp only [Quote.admits, Bool.and_eq_true, bne_iff_ne] at admitted
        simp only [Letter.chars, List.singleton_append]
        rw [wordsFrom_inside _ _ admitted.2, if_neg admitted.1]
        rfl
    rw [List.flatMap_cons, List.append_assoc, letter, ih]
    simp

private theorem wordsFrom_piece (p : Piece) :
    wordsFrom word none (p.chars ++ cs) =
      wordsFrom (some (p.value.reverse ++ word.getD [])) none cs := by
  cases p with
  | letter l =>
    cases l with
    | bare c plain => exact wordsFrom_plain cs plain
    | escaped c => exact wordsFrom_escaped cs none c
  | quoted q body =>
    have closing : q.mark ≠ '\\' := by cases q <;> decide
    simp only [Piece.chars, Piece.value, List.cons_append, List.append_assoc, List.nil_append]
    rw [wordsFrom_mark, wordsFrom_body, wordsFrom_inside _ _ closing, if_pos rfl]
    rfl

private theorem wordsFrom_pieces (ps : List Piece) (read : List Char) :
    wordsFrom (some read) none (ps.flatMap Piece.chars ++ cs) =
      wordsFrom (some ((ps.flatMap Piece.value).reverse ++ read)) none cs := by
  induction ps generalizing read with
  | nil => rfl
  | cons p ps ih =>
    rw [List.flatMap_cons, List.append_assoc, wordsFrom_piece, ih]
    simp

theorem wordsFrom_word (w : Word) :
    wordsFrom none none (w.chars ++ cs) = wordsFrom (some w.value.reverse) none cs := by
  unfold Word.chars Word.value Word.pieces
  rw [List.flatMap_cons, List.append_assoc, wordsFrom_piece, wordsFrom_pieces]
  simp

theorem wordsFrom_blanks (bs : List Blank) :
    wordsFrom none none (bs.map Subtype.val ++ cs) = wordsFrom none none cs := by
  induction bs with
  | nil => rfl
  | cons b bs ih =>
    rw [List.map_cons, List.cons_append, wordsFrom_blank, ih]
    rfl

theorem wordsFrom_gap (read : List Char) (g : Gap) :
    wordsFrom (some read) none (g.blanks.map Subtype.val ++ cs) =
      read.reverse :: wordsFrom none none cs := by
  unfold Gap.blanks
  rw [List.map_cons, List.cons_append, wordsFrom_blank, wordsFrom_blanks]
  rfl

private theorem wordsFrom_stray (quote : Option Char) (stray : Bool) :
    wordsFrom word quote (Reading.strayChars stray) = (word.map List.reverse).toList := by
  cases stray <;> simp [Reading.strayChars, wordsFrom]

private theorem wordsFrom_ending (e : Ending) (stray : Bool) :
    wordsFrom none none (e.chars ++ Reading.strayChars stray) = e.value.toList := by
  cases e with
  | nothing => exact wordsFrom_stray none stray
  | word w =>
    simp only [Ending.chars, Ending.value]
    rw [wordsFrom_word, wordsFrom_stray]
    simp
  | unclosed front q body =>
    simp only [Ending.chars, Ending.value, List.append_assoc, List.cons_append]
    cases front with
    | nil =>
      simp only [List.flatMap_nil, List.nil_append]
      rw [wordsFrom_mark, Option.getD_none, wordsFrom_body, wordsFrom_stray]
      simp
    | cons p ps =>
      rw [List.flatMap_cons, List.append_assoc, wordsFrom_piece, wordsFrom_pieces, wordsFrom_mark,
        Option.getD_some, wordsFrom_body, wordsFrom_stray]
      simp

private theorem wordsFrom_chars (r : Reading) : wordsFrom none none r.chars = r.values := by
  obtain ⟨leading, spaced, ending, stray⟩ := r
  unfold Reading.chars Reading.values Reading.spacedChars
  rw [wordsFrom_blanks]
  induction spaced with
  | nil => exact wordsFrom_ending ending stray
  | cons entry spaced ih =>
    simp only [List.flatMap_cons, List.append_assoc, List.map_cons, List.cons_append] at ih ⊢
    rw [wordsFrom_word, wordsFrom_gap, ih, List.reverse_reverse]

end Words

namespace Reading

def blank (b : Blank) (r : Reading) : Reading :=
  { r with leading := b :: r.leading }

/-- A piece in front of a line: it begins a word of its own, or joins the word that stands
first. -/
def push (p : Piece) : Reading → Reading
  | ⟨b :: bs, spaced, ending, stray⟩ => ⟨[], (⟨p, []⟩, ⟨b, bs⟩) :: spaced, ending, stray⟩
  | ⟨[], (w, g) :: spaced, ending, stray⟩ => ⟨[], (⟨p, w.pieces⟩, g) :: spaced, ending, stray⟩
  | ⟨[], [], .nothing, stray⟩ => ⟨[], [], .word ⟨p, []⟩, stray⟩
  | ⟨[], [], .word w, stray⟩ => ⟨[], [], .word ⟨p, w.pieces⟩, stray⟩
  | ⟨[], [], .unclosed front q body, stray⟩ => ⟨[], [], .unclosed (p :: front) q body, stray⟩

@[simp]
theorem chars_blank (b : Blank) (r : Reading) : (r.blank b).chars = b.val :: r.chars := rfl

@[simp]
theorem chars_push (p : Piece) (r : Reading) : (r.push p).chars = p.chars ++ r.chars := by
  fun_cases push p r <;>
    simp [chars, spacedChars, Word.chars, Word.pieces, Gap.blanks, Ending.chars]

private theorem induct {motive : Reading → Prop}
    (nothing : ∀ stray, motive ⟨[], [], .nothing, stray⟩)
    (unclosed : ∀ q body stray, motive ⟨[], [], .unclosed [] q body, stray⟩)
    (blank : ∀ b r, motive r → motive (r.blank b))
    (push : ∀ p r, motive r → motive (r.push p)) (r : Reading) : motive r := by
  have blanks : ∀ (leading : List Blank) spaced ending stray,
      motive ⟨[], spaced, ending, stray⟩ → motive ⟨leading, spaced, ending, stray⟩ := by
    intro leading spaced ending stray base
    induction leading with
    | nil => exact base
    | cons b bs ih => exact blank b _ ih
  have ends : ∀ ending stray, motive ⟨[], [], ending, stray⟩ := by
    intro ending stray
    cases ending with
    | nothing => exact nothing stray
    | word w =>
      obtain ⟨first, rest⟩ := w
      induction rest generalizing first with
      | nil => exact push first _ (nothing stray)
      | cons second rest ih => exact push first _ (ih second)
    | unclosed front q body =>
      induction front with
      | nil => exact unclosed q body stray
      | cons p front ih => exact push p _ ih
  obtain ⟨leading, spaced, ending, stray⟩ := r
  refine blanks leading spaced ending stray ?_
  induction spaced with
  | nil => exact ends ending stray
  | cons entry spaced ih =>
    obtain ⟨⟨first, rest⟩, gap⟩ := entry
    induction rest generalizing first with
    | nil => exact push first _ (blanks gap.blanks spaced ending stray ih)
    | cons second rest inner => exact push first _ (inner second)

end Reading

abbrev Opened : Type :=
  (q : Quote) × List (Letter q.admits)

def openedChars : Option Opened → List Char
  | none => []
  | some ⟨q, body⟩ => q.mark :: body.flatMap Letter.chars

def readingAtEnd (stray : Bool) : Option Opened → Reading
  | none => ⟨[], [], .nothing, stray⟩
  | some ⟨q, body⟩ => ⟨[], [], .unclosed [] q body, stray⟩

/-- Reads a character behind a backslash; `rest` reads what follows. -/
def readEscaped (c : Char) (rest : Option Opened → Reading) : Option Opened → Reading
  | none => (rest none).push (.letter (.escaped c))
  | some ⟨q, body⟩ => rest (some ⟨q, body ++ [.escaped c]⟩)

def readChar (c : Char) (rest : Option Opened → Reading) : Option Opened → Reading
  | none =>
    if plain : isPlain c = true then (rest none).push (.letter (.bare c plain))
    else if blank : Text.isBlank c = true then (rest none).blank ⟨c, blank⟩
    else rest (some ⟨if c = '\'' then .single else .double, []⟩)
  | some ⟨q, body⟩ =>
    if admitted : q.admits c = true then rest (some ⟨q, body ++ [.bare c admitted]⟩)
    else (rest none).push (.quoted q body)

def readingFrom : List Char → Option Opened → Reading
  | [] => readingAtEnd false
  | '\\' :: [] => readingAtEnd true
  | '\\' :: c :: cs => readEscaped c (readingFrom cs)
  | c :: cs => readChar c (readingFrom cs)

private theorem readingFrom_cons {c : Char} (notBackslash : c ≠ '\\') (cs : List Char) :
    readingFrom (c :: cs) = readChar c (readingFrom cs) := by
  rw [readingFrom]
  · exact fun same _ => notBackslash same
  · exact fun _ _ same _ => notBackslash same

section Existence

private theorem chars_readingAtEnd (opened : Option Opened) (stray : Bool) :
    (readingAtEnd stray opened).chars = openedChars opened ++ Reading.strayChars stray := by
  cases opened <;>
    simp [readingAtEnd, openedChars, Reading.chars, Reading.spacedChars, Ending.chars]

variable {cs : List Char} {rest : Option Opened → Reading}
  (ih : ∀ opened, (rest opened).chars = openedChars opened ++ cs)

include ih

private theorem chars_readEscaped (c : Char) (opened : Option Opened) :
    (readEscaped c rest opened).chars = openedChars opened ++ '\\' :: c :: cs := by
  fun_cases readEscaped c rest opened <;> simp [ih, openedChars, Piece.chars, Letter.chars]

private theorem chars_readChar {c : Char} (notBackslash : c ≠ '\\') (opened : Option Opened) :
    (readChar c rest opened).chars = openedChars opened ++ c :: cs := by
  fun_cases readChar c rest opened with
  | case1 plain => simp [ih, openedChars, Piece.chars, Letter.chars]
  | case2 _ blank => simp [ih, openedChars]
  | case3 notPlain notBlank =>
    have quotation : c ≠ '\'' → c = '"' := by
      simpa [isPlain, notBlank, notBackslash] using notPlain
    rw [ih]
    by_cases single : c = '\''
    · subst single; rfl
    · obtain rfl := quotation single; rfl
  | case4 q body admitted => simp [ih, openedChars, Letter.chars]
  | case5 q body notAdmitted =>
    have closing : c = q.mark := by
      simpa [Quote.admits, notBackslash] using notAdmitted
    simp [ih, openedChars, Piece.chars, closing]

end Existence

private theorem chars_readingFrom (cs : List Char) (opened : Option Opened) :
    (readingFrom cs opened).chars = openedChars opened ++ cs := by
  fun_induction readingFrom cs generalizing opened with
  | case1 => exact chars_readingAtEnd opened false
  | case2 => exact chars_readingAtEnd opened true
  | case3 c cs ih => exact chars_readEscaped ih c opened
  | case4 c cs notLone notEscape ih =>
    have notBackslash : c ≠ '\\' := by
      intro same
      cases cs with
      | nil => exact notLone same rfl
      | cons d ds => exact notEscape d ds same rfl
    exact chars_readChar ih notBackslash opened

section Uniqueness

variable (cs : List Char)

private theorem readingFrom_plain {c : Char} (plain : isPlain c = true) :
    readingFrom (c :: cs) none = (readingFrom cs none).push (.letter (.bare c plain)) := by
  have notBackslash : c ≠ '\\' := by rintro rfl; exact absurd plain (by decide)
  rw [readingFrom_cons notBackslash, readChar, dif_pos plain]

private theorem readingFrom_blank (b : Blank) :
    readingFrom (b.val :: cs) none = (readingFrom cs none).blank b := by
  have notPlain : ¬ isPlain b.val = true := by simp [isPlain, b.property]
  rw [readingFrom_cons (blank_ne b.property).2.2, readChar, dif_neg notPlain, dif_pos b.property]

private theorem readingFrom_mark (q : Quote) :
    readingFrom (q.mark :: cs) none = readingFrom cs (some ⟨q, []⟩) := by
  cases q <;> rfl

private theorem readingFrom_body (q : Quote) (front body : List (Letter q.admits)) :
    readingFrom (body.flatMap Letter.chars ++ cs) (some ⟨q, front⟩) =
      readingFrom cs (some ⟨q, front ++ body⟩) := by
  induction body generalizing front with
  | nil => simp
  | cons l body ih =>
    have letter : readingFrom (l.chars ++ (body.flatMap Letter.chars ++ cs)) (some ⟨q, front⟩) =
        readingFrom (body.flatMap Letter.chars ++ cs) (some ⟨q, front ++ [l]⟩) := by
      cases l with
      | escaped c => rfl
      | bare c admitted =>
        have notBackslash : c ≠ '\\' := by
          simp only [Quote.admits, Bool.and_eq_true, bne_iff_ne] at admitted
          exact admitted.2
        rw [Letter.chars, List.singleton_append, readingFrom_cons notBackslash, readChar,
          dif_pos admitted]
    rw [List.flatMap_cons, List.append_assoc, letter, ih, List.append_assoc,
      List.singleton_append]

private theorem readingFrom_piece (p : Piece) :
    readingFrom (p.chars ++ cs) none = (readingFrom cs none).push p := by
  cases p with
  | letter l =>
    cases l with
    | bare c plain => exact readingFrom_plain cs plain
    | escaped c => rfl
  | quoted q body =>
    have closing : q.mark ≠ '\\' := by cases q <;> decide
    have notAdmitted : ¬ q.admits q.mark = true := by simp [Quote.admits]
    simp only [Piece.chars, List.cons_append, List.append_assoc, List.nil_append]
    rw [readingFrom_mark, readingFrom_body, readingFrom_cons closing, readChar,
      dif_neg notAdmitted, List.nil_append]

private theorem readingFrom_chars (r : Reading) : readingFrom r.chars none = r := by
  induction r using Reading.induct with
  | nothing stray => cases stray <;> rfl
  | unclosed q body stray =>
    have line := chars_readingAtEnd (some ⟨q, body⟩) stray
    have tail : ∀ opened, readingFrom (Reading.strayChars stray) opened =
        readingAtEnd stray opened := by
      cases stray <;> exact fun _ => rfl
    change readingFrom (readingAtEnd stray (some ⟨q, body⟩)).chars none = _
    rw [line, openedChars, List.cons_append, readingFrom_mark, readingFrom_body, tail]
    rfl
  | blank b r ih => rw [Reading.chars_blank, readingFrom_blank, ih]
  | push p r ih => rw [Reading.chars_push, readingFrom_piece, ih]

end Uniqueness

/-- Every line has exactly one reading, and its words are the values of the words read. -/
theorem words_of_unique_reading (line : String) :
    (∃! r : Reading, r.chars = line.toList) ∧
      ∀ r : Reading, r.chars = line.toList → words line = r.values.map String.ofList := by
  refine ⟨⟨readingFrom line.toList none, chars_readingFrom line.toList none, ?_⟩, ?_⟩
  · intro r written
    rw [← written, readingFrom_chars]
  · intro r written
    rw [words, ← written, wordsFrom_chars]

example : words " a'b c'\"\"\\' ''  \"d\\" = ["ab c'", "", "d"] := by decide +kernel

end ProfileShell.Command
