import ProfileShell.Proofs.Json.Reading

/-!
The compact text of a value is read as the tree of that value.

It comes to the tokens of the value, as its text with line breaks does; what those make of it does
not depend on blanks.
-/

set_option autoImplicit false
set_option relaxedAutoImplicit false

namespace ProfileShell.Json

private theorem endsNumber_bracket (cs : List Char) : EndsNumber (']' :: cs) := by
  rintro c ⟨⟩
  decide

private theorem endsNumber_brace (cs : List Char) : EndsNumber ('\x7d' :: cs) := by
  rintro c ⟨⟩
  decide

/-- The compact text of the value is read as its tokens, in front of any text that ends a number. -/
def CompactlyReadable (v : Json) : Prop :=
  ∀ rest ts, EndsNumber rest → Lexes rest ts → Lexes (compactChars v ++ rest) (tokens v ++ ts)

private theorem lexes_compactItems {items : List Json}
    (readable : ∀ v ∈ items, CompactlyReadable v) {rest : List Char} {ts : List Token}
    (ends : EndsNumber rest) (lexes : Lexes rest ts) :
    Lexes (compactItems items ++ rest) (itemTokens items ++ ts) := by
  induction items with
  | nil => exact lexes
  | cons v vs ih =>
    obtain ⟨first, others⟩ := List.forall_mem_cons.mp readable
    cases vs with
    | nil =>
      simp only [compactItems, itemTokens]
      exact first rest ts ends lexes
    | cons w ws =>
      simp only [compactItems, itemTokens, List.append_assoc, List.cons_append]
      exact first _ _ (endsNumber_comma _) (Lexes.token [] rfl rfl (ih others))

private theorem lexes_compactFields {fields : List (String × Json)}
    (readable : ∀ field ∈ fields, CompactlyReadable field.2) {rest : List Char} {ts : List Token}
    (ends : EndsNumber rest) (lexes : Lexes rest ts) :
    Lexes (compactFields fields ++ rest) (fieldTokens fields ++ ts) := by
  induction fields with
  | nil => exact lexes
  | cons field fs ih =>
    obtain ⟨k, v⟩ := field
    obtain ⟨first, others⟩ := List.forall_mem_cons.mp readable
    have entry : ∀ {rest ts}, EndsNumber rest → Lexes rest ts →
        Lexes (textChars k ++ ':' :: (compactChars v ++ rest))
          (.text (some k) :: .colon :: (tokens v ++ ts)) := by
      intro rest ts ends lexes
      exact lexes_text k (Lexes.token [] rfl rfl (first rest ts ends lexes))
    cases fs with
    | nil =>
      simp only [compactFields, fieldTokens, List.append_assoc, List.cons_append]
      exact entry ends lexes
    | cons g gs =>
      simp only [compactFields, fieldTokens, List.append_assoc, List.cons_append]
      exact entry (endsNumber_comma _) (Lexes.token [] rfl rfl (ih others))

private theorem compactlyReadable (v : Json) : CompactlyReadable v := by
  induction v using induct with
  -- A value that is no container has the same text in both forms.
  | null => exact readable .null 0
  | bool b => cases b with
    | false => exact readable (.bool false) 0
    | true => exact readable (.bool true) 0
  | int i => exact readable (.int i) 0
  | number x => exact readable (.number x) 0
  | text s => exact readable (.text s) 0
  | array items ih =>
    intro rest ts _ lexes
    have closed : Lexes (']' :: rest) (.closeArray :: ts) := Lexes.token [] rfl rfl lexes
    simp only [compactChars, tokens, List.append_assoc, List.cons_append, List.nil_append]
    exact Lexes.token [] rfl rfl (lexes_compactItems ih (endsNumber_bracket _) closed)
  | object fields ih =>
    intro rest ts _ lexes
    have closed : Lexes ('\x7d' :: rest) (.closeObject :: ts) := Lexes.token [] rfl rfl lexes
    simp only [compactChars, tokens, List.append_assoc, List.cons_append, List.nil_append]
    exact Lexes.token [] rfl rfl (lexes_compactFields ih (endsNumber_brace _) closed)

/-- The compact text of a value is read as the tree of the value. -/
theorem parse?_compact (v : Json) : Raw.parse? v.compact = some v.raw := by
  have lexes := compactlyReadable v [] [] (fun _ impossible => by cases impossible) Lexes.nil
  rw [List.append_nil, List.append_nil] at lexes
  have read : tokens? v.compact.toList = some (tokens v) := by
    unfold tokens? compact
    rw [String.toList_ofList]
    exact lexes _ (Nat.le_refl _)
  unfold Raw.parse?
  rw [read, Option.bind_some, ofTokens?_tokens]

end ProfileShell.Json
