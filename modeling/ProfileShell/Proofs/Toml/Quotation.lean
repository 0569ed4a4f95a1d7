import ProfileShell.Toml.Text.Printer

/-!
Texts in TOML are read back as they were.

In a basic form each character is spelled as itself, by a letter after a backslash or by its code
point. A spelling neither ends the text nor runs into what follows it, so the body is cut off at
the closing quotes, and it is decoded spelling by spelling. Up to two quotes in a row may stand in
a form of several lines; those at its end are told from the closing ones by their number.
-/

set_option autoImplicit false
set_option relaxedAutoImplicit false

namespace ProfileShell.Toml

def IsTame (c : Char) : Prop :=
  c ≠ '"' ∧ c ≠ '\\' ∧ c ≠ '\n' ∧ c ≠ '\r'

instance (c : Char) : Decidable (IsTame c) :=
  inferInstanceAs (Decidable (_ ∧ _))

inductive Spells (multiline : Bool) (c : Char) : List Char → Prop
  | plain (allowed : (if multiline then isMultiline c else isInline c) = true) (quote : c ≠ '"')
      (backslash : c ≠ '\\') : Spells multiline c [c]
  | letter {e : Char} (stands : escaped? e = some c) : Spells multiline c ['\\', e]
  | unit {high low : Char} (digits : Text.hexNumber? ['0', '0', high, low] = some c.toNat)
      (highTame : IsTame high) (lowTame : IsTame low) :
      Spells multiline c ['\\', 'u', '0', '0', high, low]

section Spelling

private theorem hexNumber?_capital :
    ∀ n < 0x80, Text.hexNumber? ['0', '0', hexCapital (n / 16), hexCapital (n % 16)] = some n := by
  decide

private theorem tame_hexCapital : ∀ n < 16, IsTame (hexCapital n) := by
  decide

private theorem toNat_lt_of_isControl {c : Char} (control : isControl c = true) :
    c.toNat < 0x80 := by
  simp only [isControl, isMultiline, isInline, Bool.not_eq_true', Bool.or_eq_false_iff,
    Bool.and_eq_false_iff, decide_eq_false_iff_not, bne_eq_false_iff_eq] at control
  omega

private theorem spells_escapedChar (multiline : Bool) {c : Char} (quote : c ≠ '"') :
    Spells multiline c (escapedChar multiline c) := by
  unfold escapedChar
  split
  case h_3 =>
    cases multiline with
    | false => exact .letter rfl
    | true => exact .plain rfl (by decide) (by decide)
  case h_7 _ _ lineFeed _ _ backslash =>
    split
    · rename_i control
      have small := toNat_lt_of_isControl control
      exact .unit (hexNumber?_capital _ small) (tame_hexCapital _ (by omega))
        (tame_hexCapital _ (by omega))
    · rename_i shown
      have allowed : isMultiline c = true := by simpa [isControl] using shown
      refine .plain ?_ quote backslash
      cases multiline with
      | false =>
        have notBreak : c ≠ '\n' := lineFeed
        simpa [isMultiline, notBreak] using allowed
      | true => exact allowed
  all_goals exact .letter rfl

/-- The body of a basic text after some quotes: spellings, and on several lines also quotes, of
which no more than two stand in a row. -/
inductive Writes (multiline : Bool) : Nat → List Char → List Char → Prop
  | nil (quotes : Nat) : Writes multiline quotes [] []
  | quote {quotes : Nat} {cs body : List Char} (several : multiline = true) (fewer : quotes < 2)
      (later : Writes multiline (quotes + 1) cs body) :
      Writes multiline quotes ('"' :: cs) ('"' :: body)
  | spelled {quotes : Nat} {c : Char} {chunk cs body : List Char}
      (spells : Spells multiline c chunk) (later : Writes multiline 0 cs body) :
      Writes multiline quotes (c :: cs) (chunk ++ body)

private theorem writes_escaped (multiline : Bool) (quotes : Nat) (cs : List Char) :
    Writes multiline quotes cs (escaped multiline quotes cs) := by
  induction cs generalizing quotes with
  | nil => exact .nil quotes
  | cons c cs ih =>
    unfold escaped
    split
    · rename_i quote
      subst quote
      split
      · rename_i raw
        obtain ⟨several, fewer⟩ : multiline = true ∧ quotes < 2 := by simpa using raw
        exact .quote several fewer (ih (quotes + 1))
      · have spelled : Spells multiline '"' ['\\', '"'] := .letter rfl
        exact .spelled spelled (ih 0)
    · rename_i quote
      exact .spelled (spells_escapedChar multiline quote) (ih 0)

private theorem mem_of_escaped? {e c : Char} (stands : escaped? e = some c) :
    e ∈ ['b', 't', 'n', 'f', 'r', '"', '\\'] := by
  unfold escaped? at stands
  split at stands
  case h_8 => cases stands
  all_goals decide

end Spelling

section Decoding

private theorem scalar?_of_hexNumber? {c : Char} {digits : List Char}
    (read : Text.hexNumber? digits = some c.toNat) : scalar? digits = some c := by
  have valid : c.toNat < 0xD800 ∨ 0xDFFF < c.toNat ∧ c.toNat < 0x110000 := c.valid
  unfold scalar?
  rw [read]
  simp [valid, Char.ofNat_toNat]

private theorem unescape_spells {multiline : Bool} {c : Char} {chunk : List Char}
    (spells : Spells multiline c chunk) (cs : List Char) :
    unescape multiline false (chunk ++ cs) = (unescape multiline false cs).map (c :: ·) := by
  cases spells with
  | plain allowed quote backslash =>
    rw [List.singleton_append, unescape.eq_def]
    simp only [Bool.false_and, Bool.false_eq_true, if_false, backslash, allowed, if_true]
  | @letter e stands =>
    have known := mem_of_escaped? stands
    simp only [List.mem_cons, List.not_mem_nil, or_false] at known
    rcases known with rfl | rfl | rfl | rfl | rfl | rfl | rfl
    all_goals
      cases stands
      rw [List.cons_append, List.singleton_append, unescape.eq_def]
      cases decoded : unescape multiline false cs <;>
        simp [decoded, endsLine, dropBlanks, isBlank, escaped?]
  | @unit high low digits _ _ =>
    have scalar := scalar?_of_hexNumber? digits
    simp only [List.cons_append, List.nil_append]
    rw [unescape.eq_def]
    cases decoded : unescape multiline false cs <;>
      simp [decoded, endsLine, dropBlanks, isBlank, scalar]

private theorem Writes.unescape {multiline : Bool} {quotes : Nat} {cs body : List Char}
    (writes : Writes multiline quotes cs body) : unescape multiline false body = some cs := by
  induction writes with
  | nil => rfl
  | quote several _ _ ih =>
    subst several
    rw [Toml.unescape.eq_def]
    simp [ih, isMultiline, isInline]
  | spelled spells _ ih =>
    rw [unescape_spells spells, ih]
    rfl

end Decoding

section Cutting

/-- The reader takes the characters at the front into the body that it cuts off. -/
def Passes (read : List Char → Option (List Char × List Char)) (chunk : List Char) : Prop :=
  ∀ rest, read (chunk ++ rest) = (read rest).map fun cut => (chunk ++ cut.1, cut.2)

private theorem Passes.nil (read : List Char → Option (List Char × List Char)) :
    Passes read [] := by
  intro rest
  exact Option.map_id'.symm

private theorem Passes.append {read : List Char → Option (List Char × List Char)}
    {chunk more : List Char}
    (first : Passes read chunk) (second : Passes read more) : Passes read (chunk ++ more) := by
  intro rest
  rw [List.append_assoc, first, second]
  cases read rest <;> simp

private theorem Passes.cut {read : List Char → Option (List Char × List Char)}
    {body closing more rest : List Char} (passes : Passes read body)
    (closed : read closing = some (more, rest)) :
    read (body ++ closing) = some (body ++ more, rest) := by
  rw [passes, closed]
  rfl

variable {quote : Char} {escapes : Bool}

private theorem passes_upToQuote {c : Char} (other : c ≠ quote) (free : escapes = true → c ≠ '\\') :
    Passes (upToQuote quote escapes) [c] := by
  have plain : (escapes && c == '\\') = false := by simpa using free
  intro rest
  rw [List.singleton_append, upToQuote.eq_def]
  simp [other, plain]

private theorem passes_upToQuotes {c : Char} (other : c ≠ quote)
    (free : escapes = true → c ≠ '\\') : Passes (upToQuotes quote escapes) [c] := by
  have plain : (escapes && c == '\\') = false := by simpa using free
  intro rest
  rw [List.singleton_append, upToQuotes.eq_def]
  simp [other, plain]

private theorem passes_of_forall_ne {cs : List Char} (others : ∀ c ∈ cs, c ≠ quote) :
    Passes (upToQuote quote false) cs := by
  induction cs with
  | nil => exact .nil _
  | cons c cs ih =>
    obtain ⟨other, rest⟩ := List.forall_mem_cons.mp others
    exact (passes_upToQuote other fun impossible => by cases impossible).append (ih rest)

private theorem Spells.passes {multiline : Bool} {c : Char} {chunk : List Char}
    {read : List Char → Option (List Char × List Char)} (spells : Spells multiline c chunk)
    (single : ∀ d, d ≠ '"' → d ≠ '\\' → Passes read [d]) (pair : ∀ e, Passes read ['\\', e]) :
    Passes read chunk := by
  have zero : Passes read ['0'] := single '0' (by decide) (by decide)
  cases spells with
  | plain _ quote backslash => exact single c quote backslash
  | letter _ => exact pair _
  | unit _ high low =>
    exact (pair 'u').append (zero.append (zero.append ((single _ high.1 high.2.1).append
      (single _ low.1 low.2.1))))

private theorem Spells.passes_upToQuote {multiline : Bool} {c : Char} {chunk : List Char}
    (spells : Spells multiline c chunk) : Passes (upToQuote '"' true) chunk := by
  refine spells.passes (fun d quote backslash => Toml.passes_upToQuote quote fun _ => backslash) ?_
  intro e rest
  simp [upToQuote]

private theorem Spells.passes_upToQuotes {multiline : Bool} {c : Char} {chunk : List Char}
    (spells : Spells multiline c chunk) : Passes (upToQuotes '"' true) chunk := by
  refine spells.passes (fun d quote backslash => Toml.passes_upToQuotes quote fun _ => backslash) ?_
  intro e rest
  simp [upToQuotes]

private theorem Writes.passes {quotes : Nat} {cs body : List Char}
    (writes : Writes false quotes cs body) : Passes (upToQuote '"' true) body := by
  induction writes with
  | nil => exact .nil _
  | quote several => cases several
  | spelled spells _ ih => exact spells.passes_upToQuote.append ih

/-- Up to two quotes before the closing ones belong to the body. -/
private theorem upToQuotes_closing {quotes : Nat} (few : quotes ≤ 2) {rest : List Char}
    (ends : rest.head? ≠ some quote) :
    upToQuotes quote escapes (List.replicate quotes quote ++ quote :: quote :: quote :: rest) =
      some (List.replicate quotes quote, rest) := by
  obtain rfl | rfl | rfl : quotes = 0 ∨ quotes = 1 ∨ quotes = 2 := by omega
  all_goals
    cases rest with
    | nil => simp [upToQuotes, List.replicate]
    | cons d rest =>
      have other : d ≠ quote := by simpa using ends
      simp [upToQuotes, List.replicate, other]

private theorem upToQuotes_quotes {quotes : Nat} (few : quotes ≤ 2) {c : Char} (other : c ≠ quote)
    (free : escapes = true → quote ≠ '\\') (cs : List Char) :
    upToQuotes quote escapes (List.replicate quotes quote ++ c :: cs) =
      (upToQuotes quote escapes (c :: cs)).map
        fun cut => (List.replicate quotes quote ++ cut.1, cut.2) := by
  have plain : (escapes && quote == '\\') = false := by simpa using free
  have pass : ∀ ds, ds.take 2 ≠ [quote, quote] → upToQuotes quote escapes (quote :: ds) =
      (upToQuotes quote escapes ds).map fun cut => (quote :: cut.1, cut.2) := by
    intro ds fewer
    rw [upToQuotes.eq_def]
    simp [fewer, plain]
  obtain rfl | rfl | rfl : quotes = 0 ∨ quotes = 1 ∨ quotes = 2 := by omega
  · exact Option.map_id'.symm
  · rw [List.replicate_one, List.singleton_append, pass _ (by simp [other])]
    rfl
  · simp only [List.replicate, List.cons_append, List.nil_append]
    rw [pass _ (by simp [other]), pass _ (by simp [other])]
    cases upToQuotes quote escapes (c :: cs) <;> rfl

/-- What three quotes of its kind close: a body with quotes before it that are still to be read. -/
def Closes (quote : Char) (escapes : Bool) (quotes : Nat) (body : List Char) : Prop :=
  ∀ rest : List Char, rest.head? ≠ some quote →
    upToQuotes quote escapes
        (List.replicate quotes quote ++ body ++ quote :: quote :: quote :: rest) =
      some (List.replicate quotes quote ++ body, rest)

private theorem Closes.nil {quotes : Nat} (few : quotes ≤ 2) : Closes quote escapes quotes [] := by
  intro rest ends
  rw [List.append_nil]
  exact upToQuotes_closing few ends

private theorem Closes.cons_quote {quotes : Nat} {body : List Char}
    (closes : Closes quote escapes (quotes + 1) body) :
    Closes quote escapes quotes (quote :: body) := by
  have moved : List.replicate quotes quote ++ quote :: body =
      List.replicate (quotes + 1) quote ++ body := by
    rw [List.replicate_succ', List.append_assoc]
    rfl
  intro rest ends
  rw [moved]
  exact closes rest ends

private theorem Closes.append {quotes : Nat} (few : quotes ≤ 2) {c : Char} {chunk body : List Char}
    (other : c ≠ quote) (free : escapes = true → quote ≠ '\\')
    (passes : Passes (upToQuotes quote escapes) (c :: chunk))
    (closes : Closes quote escapes 0 body) :
    Closes quote escapes quotes (c :: chunk ++ body) := by
  intro rest ends
  have inner := passes.cut (closes rest ends)
  simp only [List.replicate_zero, List.nil_append] at inner
  simp only [List.append_assoc, List.cons_append] at inner ⊢
  rw [upToQuotes_quotes few other free, inner]
  rfl

private theorem Spells.eq_cons {multiline : Bool} {c : Char} {chunk : List Char}
    (spells : Spells multiline c chunk) : ∃ d ds, chunk = d :: ds ∧ d ≠ '"' := by
  cases spells with
  | plain _ quote _ => exact ⟨c, [], rfl, quote⟩
  | letter _ => exact ⟨'\\', _, rfl, by decide⟩
  | unit _ _ _ => exact ⟨'\\', _, rfl, by decide⟩

private theorem Closes.append_spelled {quotes : Nat} (few : quotes ≤ 2) {c : Char}
    {chunk body : List Char} (spells : Spells true c chunk) (closes : Closes '"' true 0 body) :
    Closes '"' true quotes (chunk ++ body) := by
  have passes := spells.passes_upToQuotes
  obtain ⟨d, ds, rfl, other⟩ := spells.eq_cons
  exact .append few other (fun _ => by decide) passes closes

private theorem Writes.closes {quotes : Nat} {cs body : List Char}
    (writes : Writes true quotes cs body) (few : quotes ≤ 2) : Closes '"' true quotes body := by
  induction writes with
  | nil => exact .nil few
  | quote _ fewer _ ih => exact (ih fewer).cons_quote
  | spelled spells _ ih => exact .append_spelled few spells (ih (Nat.zero_le 2))

private theorem le_longestRun (c : Char) (run : Nat) (cs : List Char) :
    run ≤ longestRun c run cs := by
  induction cs generalizing run with
  | nil => exact Nat.le_refl run
  | cons d cs ih =>
    unfold longestRun
    split
    · exact Nat.le_of_succ_le (ih (run + 1))
    · exact Nat.le_max_left _ _

private theorem closes_of_longestRun {quotes : Nat} {cs : List Char}
    (few : longestRun '\'' quotes cs ≤ 2) : Closes '\'' false quotes cs := by
  induction cs generalizing quotes with
  | nil => exact .nil few
  | cons c cs ih =>
    have start := Nat.le_trans (le_longestRun '\'' quotes (c :: cs)) few
    unfold longestRun at few
    split at few
    · rename_i quote
      subst quote
      exact (ih few).cons_quote
    · rename_i other
      have passes : Passes (upToQuotes '\'' false) [c] :=
        passes_upToQuotes other fun impossible => by cases impossible
      have later := ih (Nat.le_trans (Nat.le_max_right _ _) few)
      exact .append start other (fun impossible => by cases impossible) passes later

end Cutting

section Breaks

private theorem isInline_ne_return {c : Char} (inline : isInline c = true) : c ≠ '\r' := by
  rintro rfl
  cases inline

private theorem isMultiline_ne_return {c : Char} (allowed : isMultiline c = true) : c ≠ '\r' := by
  rintro rfl
  cases allowed

private theorem Spells.breaks {multiline : Bool} {c : Char} {chunk : List Char}
    (spells : Spells multiline c chunk) {d : Char} (member : d ∈ chunk) :
    d ≠ '\r' ∧ (d = '\n' → c = '\n') := by
  cases spells with
  | plain allowed _ _ =>
    obtain rfl := List.mem_singleton.mp member
    refine ⟨?_, id⟩
    cases multiline with
    | false => exact isInline_ne_return allowed
    | true => exact isMultiline_ne_return allowed
  | @letter e stands =>
    have known := mem_of_escaped? stands
    have tame : ∀ e ∈ ['b', 't', 'n', 'f', 'r', '"', '\\'], e ≠ '\r' ∧ e ≠ '\n' := by simp
    rcases List.mem_cons.mp member with rfl | member
    · exact ⟨by decide, fun impossible => by cases impossible⟩
    · obtain rfl := List.mem_singleton.mp member
      exact ⟨(tame d known).1, fun same => absurd same (tame d known).2⟩
  | unit _ high low =>
    have tame : IsTame d ∨ d = '\\' := by
      simp only [List.mem_cons, List.not_mem_nil, or_false] at member
      rcases member with rfl | rfl | rfl | rfl | rfl | rfl
      · exact .inr rfl
      · exact .inl (by decide)
      · exact .inl (by decide)
      · exact .inl (by decide)
      · exact .inl high
      · exact .inl low
    rcases tame with ⟨-, -, notFeed, notReturn⟩ | rfl
    · exact ⟨notReturn, fun same => absurd same notFeed⟩
    · exact ⟨by decide, fun impossible => by cases impossible⟩

private theorem Writes.breaks {multiline : Bool} {quotes : Nat} {cs body : List Char}
    (writes : Writes multiline quotes cs body) {d : Char} (member : d ∈ body) :
    d ≠ '\r' ∧ (d = '\n' → '\n' ∈ cs) := by
  induction writes with
  | nil => cases member
  | quote _ _ _ ih =>
    rcases List.mem_cons.mp member with rfl | member
    · exact ⟨by decide, fun impossible => by cases impossible⟩
    · exact ⟨(ih member).1, fun same => List.mem_cons_of_mem _ ((ih member).2 same)⟩
  | spelled spells _ ih =>
    rcases List.mem_append.mp member with member | member
    · refine ⟨(spells.breaks member).1, fun same => ?_⟩
      rw [(spells.breaks member).2 same]
      exact List.mem_cons_self
    · exact ⟨(ih member).1, fun same => List.mem_cons_of_mem _ ((ih member).2 same)⟩

private theorem unifyBreaks_of_not_mem {cs : List Char} (none : '\r' ∉ cs) :
    unifyBreaks cs = cs := by
  induction cs with
  | nil => rfl
  | cons c cs ih =>
    have rest := ih fun member => none (List.mem_cons_of_mem c member)
    have other : c ≠ '\r' := by
      rintro rfl
      exact none List.mem_cons_self
    rw [unifyBreaks, rest]
    intro _ same _
    exact other same

private theorem dropBreak_leadingBreak {cs body : List Char} (none : '\r' ∉ body)
    (breaks : '\n' ∈ body → '\n' ∈ cs) :
    dropBreak (unifyBreaks (leadingBreak cs ++ body)) = body := by
  unfold leadingBreak
  split
  · rw [unifyBreaks_of_not_mem (by simpa using none)]
    rfl
  · rename_i unbroken
    have flat : '\n' ∉ body := fun member => unbroken (by simpa using breaks member)
    rw [List.nil_append, unifyBreaks_of_not_mem none]
    unfold dropBreak
    split
    · exact absurd List.mem_cons_self flat
    · rfl

end Breaks

section Forms

variable {cs rest : List Char}

private theorem Closes.leadingBreak {quote : Char} {escapes : Bool} {body : List Char}
    (other : '\n' ≠ quote) (free : escapes = true → quote ≠ '\\')
    (closes : Closes quote escapes 0 body) (cs : List Char) :
    Closes quote escapes 0 (leadingBreak cs ++ body) := by
  unfold Toml.leadingBreak
  split
  · have passes : Passes (upToQuotes quote escapes) ['\n'] :=
      passes_upToQuotes other fun _ => by decide
    exact .append (Nat.zero_le 2) other free passes closes
  · exact closes

private theorem text?_basic {xs : List Char} (single : ∀ ys, xs ≠ '"' :: '"' :: ys) :
    text? ('"' :: xs) = basic? xs := by
  unfold text?
  split
  case h_1 same =>
    cases same
    exact absurd rfl (single _)
  case h_2 same =>
    cases same
    rfl
  case h_3 same => cases same
  case h_4 same => cases same
  case h_5 other _ _ => exact absurd rfl (other xs)

private theorem text?_literal {xs : List Char} (single : ∀ ys, xs ≠ '\'' :: '\'' :: ys) :
    text? ('\'' :: xs) = literal? xs := by
  unfold text?
  split
  case h_1 same => cases same
  case h_2 same => cases same
  case h_3 same =>
    cases same
    exact absurd rfl (single _)
  case h_4 same =>
    cases same
    rfl
  case h_5 other => exact absurd rfl (other xs)

private theorem ne_quotes_of_closing {quote : Char} {body : List Char}
    (ends : rest.head? ≠ some quote) (first : body.head? ≠ some quote) (ys : List Char) :
    body ++ quote :: rest ≠ quote :: quote :: ys := by
  intro same
  cases body with
  | nil =>
    obtain rfl : rest = quote :: ys := by simpa using same
    exact ends rfl
  | cons c body =>
    obtain ⟨rfl, -⟩ : c = quote ∧ _ := by simpa using same
    exact first rfl

private theorem upToQuote_closing (quote : Char) (escapes : Bool) (rest : List Char) :
    upToQuote quote escapes (quote :: rest) = some ([], rest) := by
  rw [upToQuote.eq_def]
  simp

private theorem Writes.head?_ne {quotes : Nat} {body : List Char}
    (writes : Writes false quotes cs body) : body.head? ≠ some '"' := by
  cases writes with
  | nil => exact nofun
  | quote several => cases several
  | spelled spells _ =>
    obtain ⟨d, ds, rfl, other⟩ := spells.eq_cons
    simpa using other

private theorem text?_write_basic (ends : rest.head? ≠ some '"') (cs : List Char) :
    text? (TextForm.write cs .basic ++ rest) = some (String.ofList cs, rest) := by
  have writes := writes_escaped false 0 cs
  have cut := writes.passes.cut (upToQuote_closing '"' true rest)
  simp only [TextForm.write, List.cons_append, List.append_assoc, List.nil_append]
  rw [text?_basic (ne_quotes_of_closing ends writes.head?_ne), basic?, cut]
  simp [decodeBody, writes.unescape]

private theorem text?_write_literal (ends : rest.head? ≠ some '\'')
    (shown : TextForm.literal.shows cs = true) :
    text? (TextForm.write cs .literal ++ rest) = some (String.ofList cs, rest) := by
  have inline : ∀ c ∈ cs, isInline c = true ∧ c ≠ '\'' := by simpa [TextForm.shows] using shown
  have passes := passes_of_forall_ne fun c member => (inline c member).2
  have first : cs.head? ≠ some '\'' := fun same => (inline '\'' (List.mem_of_head? same)).2 rfl
  have cut := passes.cut (upToQuote_closing '\'' false rest)
  simp only [TextForm.write, List.cons_append, List.append_assoc, List.nil_append]
  rw [text?_literal (ne_quotes_of_closing ends first), literal?, cut]
  have all : cs.all isInline = true := List.all_eq_true.mpr fun c member => (inline c member).1
  simp [decodeBody, literal, all]

private theorem text?_write_multilineBasic (ends : rest.head? ≠ some '"') (cs : List Char) :
    text? (TextForm.write cs .multilineBasic ++ rest) = some (String.ofList cs, rest) := by
  have writes := writes_escaped true 0 cs
  have closes := (writes.closes (Nat.zero_le 2)).leadingBreak (by decide) (fun _ => by decide) cs
  have unbroken : '\r' ∉ escaped true 0 cs := fun member => (writes.breaks member).1 rfl
  have broken : '\n' ∈ escaped true 0 cs → '\n' ∈ cs := fun member =>
    (writes.breaks member).2 rfl
  have cut := closes rest ends
  simp only [List.replicate_zero, List.nil_append, List.append_assoc] at cut
  simp only [TextForm.write, List.cons_append, List.append_assoc, List.nil_append, text?,
    multilineBasic?, cut, decodeBody, dropBreak_leadingBreak unbroken broken, writes.unescape,
    Option.map_some]

private theorem text?_write_multilineLiteral (ends : rest.head? ≠ some '\'')
    (shown : TextForm.multilineLiteral.shows cs = true) :
    text? (TextForm.write cs .multilineLiteral ++ rest) = some (String.ofList cs, rest) := by
  obtain ⟨all, few⟩ : cs.all isMultiline = true ∧ longestRun '\'' 0 cs ≤ 2 := by
    simpa [TextForm.shows] using shown
  have closes := (closes_of_longestRun few).leadingBreak (by decide) (fun _ => by decide) cs
  have unbroken : '\r' ∉ cs := fun member =>
    isMultiline_ne_return (List.all_eq_true.mp all '\r' member) rfl
  have cut := closes rest ends
  simp only [List.replicate_zero, List.nil_append, List.append_assoc] at cut
  simp only [TextForm.write, List.cons_append, List.append_assoc, List.nil_append, text?,
    multilineLiteral?, cut, decodeBody, dropBreak_leadingBreak unbroken id, literal, all, if_true,
    Option.map_some]

private theorem shows_of {form : TextForm} (taken : TextForm.of cs = form)
    (plain : form = .literal ∨ form = .multilineLiteral) : form.shows cs = true := by
  unfold TextForm.of at taken
  split at taken
  · rename_i found
    subst taken
    exact List.find?_some found
  · subst taken
    split at plain <;> rcases plain with impossible | impossible <;> cases impossible

/-- A written text is read back, in front of anything that does not begin with a quote. -/
theorem text?_writeText (s : String) (basicEnds : rest.head? ≠ some '"')
    (literalEnds : rest.head? ≠ some '\'') : text? (writeText s ++ rest) = some (s, rest) := by
  have read : text? (TextForm.write s.toList (.of s.toList) ++ rest) =
      some (String.ofList s.toList, rest) := by
    cases form : TextForm.of s.toList with
    | basic => exact text?_write_basic basicEnds _
    | literal => exact text?_write_literal literalEnds (shows_of form (.inl rfl))
    | multilineBasic => exact text?_write_multilineBasic basicEnds _
    | multilineLiteral => exact text?_write_multilineLiteral literalEnds (shows_of form (.inr rfl))
  rwa [String.ofList_toList] at read

end Forms

end ProfileShell.Toml
