import ProfileShell.Json.Raw
import ProfileShell.Proofs.Json.Double
import ProfileShell.Proofs.Json.Quotation

/-!
The printed text of a value is read as the tree of that value.

Reading is shown in its two steps. A text that is printed in front of another gives its tokens in
front of those of the other, and the tokens of a value lead from a stage where a value must come to
one where it is complete.
-/

set_option autoImplicit false
set_option relaxedAutoImplicit false

namespace ProfileShell

namespace Json

@[elab_as_elim]
theorem induct {P : Json → Prop} (null : P .null) (bool : ∀ b, P (.bool b)) (int : ∀ i, P (.int i))
    (number : ∀ x, P (.number x)) (text : ∀ s, P (.text s))
    (array : ∀ items, (∀ v ∈ items, P v) → P (.array items))
    (object : ∀ fields, (∀ field ∈ fields, P field.2) → P (.object fields)) (v : Json) : P v :=
  @Json.rec P (fun items => ∀ v ∈ items, P v) (fun fields => ∀ field ∈ fields, P field.2)
    (fun field => P field.2) null bool int number text (fun items => array items)
    (fun fields => object fields) (fun _ impossible => by cases impossible)
    (fun _ _ first rest => List.forall_mem_cons.mpr ⟨first, rest⟩)
    (fun _ impossible => by cases impossible)
    (fun _ _ first rest => List.forall_mem_cons.mpr ⟨first, rest⟩) (fun _ _ value => value) v

def Numeral.ofInt (i : Int) : Numeral :=
  ⟨i < 0, Nat.toDigits 10 i.natAbs, [], none⟩

mutual

/-- The tree that the text of a value is read as. -/
def raw : Json → Raw
  | .null => .null
  | .bool b => .bool b
  | .int i => .numeral (.ofInt i)
  | .number (.finite negative r) => .numeral (.ofRank negative r)
  | .number _ => .null
  | .text s => .text (some s)
  | .array items => .array (rawItems items)
  | .object fields => .object (rawFields fields)

def rawItems : List Json → List Raw
  | [] => []
  | v :: vs => raw v :: rawItems vs

def rawFields : List (String × Json) → List (Option String × Raw)
  | [] => []
  | (k, v) :: fs => (some k, raw v) :: rawFields fs

end

theorem rawItems_eq (items : List Json) : rawItems items = items.map raw := by
  induction items with
  | nil => simp [rawItems]
  | cons v vs ih => simp [rawItems, ih]

theorem rawFields_eq (fields : List (String × Json)) :
    rawFields fields = fields.map fun field => (some field.1, raw field.2) := by
  induction fields with
  | nil => simp [rawFields]
  | cons field fs ih => simp [rawFields, ih]

mutual

def tokens : Json → List Token
  | .null => [.null]
  | .bool b => [.bool b]
  | .int i => [.numeral (.ofInt i)]
  | .number (.finite negative r) => [.numeral (.ofRank negative r)]
  | .number _ => [.null]
  | .text s => [.text (some s)]
  | .array items => .openArray :: (itemTokens items ++ [.closeArray])
  | .object fields => .openObject :: (fieldTokens fields ++ [.closeObject])

def itemTokens : List Json → List Token
  | [] => []
  | [v] => tokens v
  | v :: vs => tokens v ++ .comma :: itemTokens vs

def fieldTokens : List (String × Json) → List Token
  | [] => []
  | [(k, v)] => .text (some k) :: .colon :: tokens v
  | (k, v) :: fs => .text (some k) :: .colon :: (tokens v ++ .comma :: fieldTokens fs)

end

/-- A text comes to some tokens, with any bound that is not below its length. -/
def Lexes (cs : List Char) (ts : List Token) : Prop :=
  ∀ bound, cs.length ≤ bound → tokensWithin bound cs = some ts

theorem Lexes.nil : Lexes [] [] := by
  intro bound _
  cases bound <;> rfl

private theorem Lexes.blank {c : Char} {cs : List Char} {ts : List Token} (blank : isBlank c = true)
    (lexes : Lexes cs ts) : Lexes (c :: cs) ts := by
  intro bound enough
  cases bound with
  | zero => cases enough
  | succ bound =>
    have rest := lexes (bound + 1) (by rw [List.length_cons] at enough; omega)
    unfold tokensWithin at rest ⊢
    rw [List.dropWhile_cons_of_pos blank]
    exact rest

private theorem Lexes.newLine {cs : List Char} {ts : List Token} (depth : Nat)
    (lexes : Lexes cs ts) : Lexes (newLine depth ++ cs) ts := by
  refine Lexes.blank rfl ?_
  induction 2 * depth with
  | zero => exact lexes
  | succ n ih => exact Lexes.blank rfl ih

theorem Lexes.token {c : Char} (front : List Char) {rest : List Char} {t : Token}
    {ts : List Token} (visible : isBlank c = false)
    (first : token? (c :: front ++ rest) = some (t, rest)) (lexes : Lexes rest ts) :
    Lexes (c :: front ++ rest) (t :: ts) := by
  intro bound enough
  cases bound with
  | zero => cases enough
  | succ bound =>
    have fewer : rest.length ≤ bound := by
      rw [List.length_append, List.length_cons] at enough
      omega
    unfold tokensWithin
    rw [List.cons_append, List.dropWhile_cons_of_neg (by simp [visible])]
    rw [List.cons_append] at first
    simp only [first, lexes bound fewer, Option.map_some]

private theorem not_blank_of_isDigit {c : Char} (digit : c.isDigit = true) : isBlank c = false := by
  rw [Bool.eq_false_iff]
  intro blank
  simp only [isBlank, Bool.or_eq_true, beq_iff_eq] at blank
  rcases blank with ((rfl | rfl) | rfl) | rfl <;> cases digit

private theorem token?_of_isDigit {d : Char} (digit : d.isDigit = true) (cs : List Char) :
    token? (d :: cs) = (numeral? false (d :: cs)).map fun read => (.numeral read.1, read.2) := by
  unfold token?
  split
  case h_12 => rfl
  all_goals
    rename_i same
    cases same
    cases digit

def Numeral.signedChars (n : Numeral) : List Char :=
  if n.negative then '-' :: n.chars else n.chars

private theorem lexes_numeral {n : Numeral} (formed : n.WellFormed) {rest : List Char}
    {ts : List Token} (ends : EndsNumber rest) (lexes : Lexes rest ts) :
    Lexes (n.signedChars ++ rest) (.numeral n :: ts) := by
  have read := Numeral.numeral?_chars formed ends
  unfold Numeral.signedChars
  split
  · rename_i negative
    refine Lexes.token _ rfl ?_ lexes
    rw [negative] at read
    simp [token?, read]
  · rename_i positive
    obtain ⟨d, ds, whole, digit⟩ : ∃ d ds, n.whole = d :: ds ∧ d.isDigit = true := by
      rcases formed.first with zero | ⟨d, ds, parts, -⟩
      · exact ⟨'0', [], zero, rfl⟩
      · exact ⟨d, ds, parts, formed.whole d (parts ▸ List.mem_cons_self)⟩
    obtain ⟨front, parts⟩ : ∃ front, n.chars = d :: front := by
      unfold Numeral.chars
      rw [whole]
      exact ⟨_, List.cons_append⟩
    rw [parts] at read ⊢
    refine Lexes.token _ (not_blank_of_isDigit digit) ?_ lexes
    rw [Bool.not_eq_true] at positive
    rw [positive] at read
    rw [List.cons_append] at read ⊢
    rw [token?_of_isDigit digit, read]
    rfl

private theorem wellFormed_ofInt (i : Int) : (Numeral.ofInt i).WellFormed := by
  refine ⟨digits_toDigits _, ?_, fun _ impossible => by cases impossible⟩
  by_cases zero : i.natAbs = 0
  · exact Or.inl (by unfold Numeral.ofInt; rw [zero]; rfl)
  · exact Or.inr (leading_toDigits zero).first

private theorem signedChars_ofInt (i : Int) : (Numeral.ofInt i).signedChars = intChars i := by
  have chars : (Numeral.ofInt i).chars = Nat.toDigits 10 i.natAbs := by
    simp [Numeral.ofInt, Numeral.chars, Numeral.fractionChars, Numeral.exponentChars]
  unfold Numeral.signedChars intChars
  rw [chars]
  simp [Numeral.ofInt]

private theorem signedChars_ofRank (negative : Bool) (r : Rank) :
    (Numeral.ofRank negative r).signedChars = doubleChars (.finite negative r) := by
  unfold Numeral.signedChars doubleChars Binary64.finiteText
  rw [Numeral.negative_ofRank, Numeral.chars_ofRank]

theorem endsNumber_comma (cs : List Char) : EndsNumber (',' :: cs) := by
  rintro c ⟨⟩
  decide

private theorem endsNumber_newLine (depth : Nat) (cs : List Char) :
    EndsNumber (newLine depth ++ cs) := by
  rintro c ⟨⟩
  decide

/-- The value has a text that is read as its tokens, in front of any text that ends a number. -/
def Readable (v : Json) : Prop :=
  ∀ depth rest ts, EndsNumber rest → Lexes rest ts →
    Lexes (prettyChars depth v ++ rest) (tokens v ++ ts)

private theorem lexes_items {items : List Json} (readable : ∀ v ∈ items, Readable v)
    (depth : Nat) {rest : List Char} {ts : List Token} (ends : EndsNumber rest)
    (lexes : Lexes rest ts) :
    Lexes (prettyItems depth items ++ rest) (itemTokens items ++ ts) := by
  induction items with
  | nil => exact lexes
  | cons v vs ih =>
    obtain ⟨first, others⟩ := List.forall_mem_cons.mp readable
    cases vs with
    | nil =>
      simp only [prettyItems, itemTokens, List.append_assoc]
      exact Lexes.newLine depth (first depth rest ts ends lexes)
    | cons w ws =>
      simp only [prettyItems, itemTokens, List.append_assoc, List.cons_append]
      -- The item may be a number, which the comma ends.
      refine Lexes.newLine depth (first depth _ _ (endsNumber_comma _) ?_)
      exact Lexes.token [] rfl rfl (ih others)

theorem lexes_text (s : String) {rest : List Char} {ts : List Token}
    (lexes : Lexes rest ts) : Lexes (textChars s ++ rest) (.text (some s) :: ts) :=
  Lexes.token _ rfl (token?_textChars s rest) lexes

private theorem lexes_fields {fields : List (String × Json)}
    (readable : ∀ field ∈ fields, Readable field.2) (depth : Nat) {rest : List Char}
    {ts : List Token} (ends : EndsNumber rest) (lexes : Lexes rest ts) :
    Lexes (prettyFields depth fields ++ rest) (fieldTokens fields ++ ts) := by
  induction fields with
  | nil => exact lexes
  | cons field fs ih =>
    obtain ⟨k, v⟩ := field
    obtain ⟨first, others⟩ := List.forall_mem_cons.mp readable
    have entry : ∀ {rest ts}, EndsNumber rest → Lexes rest ts →
        Lexes (newLine depth ++ (textChars k ++ ':' :: ' ' :: (prettyChars depth v ++ rest)))
          (.text (some k) :: .colon :: (tokens v ++ ts)) := by
      intro rest ts ends lexes
      refine Lexes.newLine depth (lexes_text k (Lexes.token [] rfl rfl ?_))
      exact Lexes.blank rfl (first depth rest ts ends lexes)
    cases fs with
    | nil =>
      simp only [prettyFields, fieldTokens, List.append_assoc, List.cons_append]
      exact entry ends lexes
    | cons g gs =>
      simp only [prettyFields, fieldTokens, List.append_assoc, List.cons_append]
      refine entry (endsNumber_comma _) ?_
      exact Lexes.token [] rfl rfl (ih others)

theorem readable (v : Json) : Readable v := by
  induction v using induct with
  | null =>
    intro depth rest ts _ lexes
    exact Lexes.token ['u', 'l', 'l'] rfl rfl lexes
  | bool b =>
    intro depth rest ts _ lexes
    cases b with
    | false => exact Lexes.token ['a', 'l', 's', 'e'] rfl rfl lexes
    | true => exact Lexes.token ['r', 'u', 'e'] rfl rfl lexes
  | int i =>
    intro depth rest ts ends lexes
    simp only [prettyChars, tokens]
    rw [← signedChars_ofInt]
    exact lexes_numeral (wellFormed_ofInt i) ends lexes
  | number x =>
    intro depth rest ts ends lexes
    cases x with
    | nan => exact Lexes.token ['u', 'l', 'l'] rfl rfl lexes
    | infinite negative => exact Lexes.token ['u', 'l', 'l'] rfl rfl lexes
    | finite negative r =>
      simp only [prettyChars, tokens]
      rw [← signedChars_ofRank]
      exact lexes_numeral (Numeral.wellFormed_ofRank negative r) ends lexes
  | text s =>
    intro depth rest ts _ lexes
    simp only [prettyChars, tokens]
    exact lexes_text s lexes
  | array items ih =>
    intro depth rest ts _ lexes
    have closed : Lexes (']' :: rest) (.closeArray :: ts) := Lexes.token [] rfl rfl lexes
    cases items with
    | nil => exact Lexes.token [] rfl rfl closed
    | cons v vs =>
      simp only [prettyChars, tokens, List.append_assoc, List.cons_append, List.nil_append]
      refine Lexes.token [] rfl rfl (lexes_items ih (depth + 1) (endsNumber_newLine _ _) ?_)
      exact Lexes.newLine depth closed
  | object fields ih =>
    intro depth rest ts _ lexes
    have closed : Lexes ('\x7d' :: rest) (.closeObject :: ts) := Lexes.token [] rfl rfl lexes
    cases fields with
    | nil => exact Lexes.token [] rfl rfl closed
    | cons f fs =>
      simp only [prettyChars, tokens, List.append_assoc, List.cons_append, List.nil_append]
      refine Lexes.token [] rfl rfl (lexes_fields ih (depth + 1) (endsNumber_newLine _ _) ?_)
      exact Lexes.newLine depth closed

private theorem tokens?_pretty (v : Json) : tokens? (v.pretty).toList = some (tokens v) := by
  have lexes := readable v 0 [] [] (fun _ impossible => by cases impossible) Lexes.nil
  rw [List.append_nil, List.append_nil] at lexes
  unfold tokens? pretty
  rw [String.toList_ofList]
  exact lexes _ (Nat.le_refl _)

def Stepping (v : Json) : Prop :=
  ∀ frames ts, (tokens v ++ ts).foldlM Stage.step (.value frames) =
    ts.foldlM Stage.step (.after v.raw frames)

private theorem steps_firstItem (v : Json) (items : List Json) (frames : List Frame)
    (ts : List Token) :
    (itemTokens (v :: items) ++ ts).foldlM Stage.step (.firstItem frames) =
      (itemTokens (v :: items) ++ ts).foldlM Stage.step (.value (.array [] :: frames)) := by
  have value : ∀ ts, (tokens v ++ ts).foldlM Stage.step (.firstItem frames) =
      (tokens v ++ ts).foldlM Stage.step (.value (.array [] :: frames)) := by
    intro ts
    cases v with
    | number x => cases x <;> rfl
    | _ => rfl
  cases items with
  | nil => exact value ts
  | cons w ws =>
    simp only [itemTokens, List.append_assoc]
    exact value _

private theorem steps_items {v : Json} {items : List Json} (first : Stepping v)
    (others : ∀ w ∈ items, Stepping w) (done : List Raw) (frames : List Frame)
    (ts : List Token) :
    (itemTokens (v :: items) ++ .closeArray :: ts).foldlM Stage.step
        (.value (.array done :: frames)) =
      ts.foldlM Stage.step (.after (.array (done.reverse ++ rawItems (v :: items))) frames) := by
  induction items generalizing v done with
  | nil =>
    simp only [itemTokens]
    rw [first]
    simp [Stage.step, rawItems]
  | cons w ws ih =>
    obtain ⟨second, others⟩ := List.forall_mem_cons.mp others
    simp only [itemTokens, List.append_assoc, List.cons_append]
    rw [first]
    have rest := ih second others (v.raw :: done)
    simp only [List.foldlM_cons, Stage.step, Option.bind_eq_bind, Option.bind_some]
    rw [rest]
    simp [rawItems]

private theorem steps_fields {k : String} {v : Json} {fields : List (String × Json)}
    (first : Stepping v) (others : ∀ field ∈ fields, Stepping field.2)
    (done : List (Option String × Raw)) (frames : List Frame) (ts : List Token) :
    (fieldTokens ((k, v) :: fields) ++ .closeObject :: ts).foldlM Stage.step
        (.key done frames) =
      ts.foldlM Stage.step
        (.after (.object (done.reverse ++ rawFields ((k, v) :: fields))) frames) := by
  induction fields generalizing k v done with
  | nil =>
    simp only [fieldTokens, List.cons_append, List.foldlM_cons, Stage.step,
      Option.bind_eq_bind, Option.bind_some]
    rw [first]
    simp [Stage.step, rawFields]
  | cons field fs ih =>
    obtain ⟨l, w⟩ := field
    obtain ⟨second, others⟩ := List.forall_mem_cons.mp others
    have rest := ih (k := l) second others ((some k, v.raw) :: done)
    simp only [fieldTokens, List.append_assoc, List.cons_append, List.foldlM_cons, Stage.step,
      Option.bind_eq_bind, Option.bind_some]
    rw [first]
    simp only [List.foldlM_cons, Stage.step, Option.bind_eq_bind, Option.bind_some]
    rw [rest]
    simp [rawFields]

private theorem steps_firstKey (field : String × Json) (fields : List (String × Json))
    (frames : List Frame) (ts : List Token) :
    (fieldTokens (field :: fields) ++ ts).foldlM Stage.step (.firstKey frames) =
      (fieldTokens (field :: fields) ++ ts).foldlM Stage.step (.key [] frames) := by
  cases fields <;> rfl

private theorem stepping (v : Json) : Stepping v := by
  induction v using induct with
  | null => exact fun _ _ => rfl
  | bool b => exact fun _ _ => rfl
  | int i => exact fun _ _ => rfl
  | number x => cases x <;> exact fun _ _ => rfl
  | text s => exact fun _ _ => rfl
  | array items ih =>
    intro frames ts
    cases items with
    | nil => rfl
    | cons v vs =>
      obtain ⟨first, others⟩ := List.forall_mem_cons.mp ih
      simp only [tokens, raw, List.cons_append, List.append_assoc, List.foldlM_cons, Stage.step,
        startValue, Option.bind_eq_bind, Option.bind_some, List.nil_append]
      rw [steps_firstItem, steps_items first others]
      rfl
  | object fields ih =>
    intro frames ts
    cases fields with
    | nil => rfl
    | cons field fs =>
      obtain ⟨k, v⟩ := field
      obtain ⟨first, others⟩ := List.forall_mem_cons.mp ih
      simp only [tokens, raw, List.cons_append, List.append_assoc, List.foldlM_cons, Stage.step,
        startValue, Option.bind_eq_bind, Option.bind_some, List.nil_append]
      rw [steps_firstKey, steps_fields first others]
      rfl

theorem ofTokens?_tokens (v : Json) : Raw.ofTokens? (tokens v) = some v.raw := by
  have steps := stepping v [] []
  rw [List.append_nil] at steps
  unfold Raw.ofTokens?
  rw [steps]
  rfl

/-- The printed text of a value is read as the tree of the value. -/
theorem parse?_pretty (v : Json) : Raw.parse? v.pretty = some v.raw := by
  unfold Raw.parse?
  rw [tokens?_pretty, Option.bind_some, ofTokens?_tokens]

end Json

end ProfileShell
