import ProfileShell.Proofs.Toml.Document
import ProfileShell.Settings.Text

/-!
The text of settings is read as the settings.

Every field is written on one line, under a bare name. No two names are the same, so the table that
the lines make up holds each field's text under its name, and nothing falls back to a standard.
-/

set_option autoImplicit false
set_option relaxedAutoImplicit false

namespace ProfileShell

private theorem OverlapPolicy.ofName?_name (policy : OverlapPolicy) :
    ofName? policy.name = some policy := by
  cases policy <;> decide

namespace Settings

open Toml (IsBareName textLine textNode)

section Lines

variable {field : String × String} {fields : List (String × String)}

private theorem fieldLine_eq_cons (bare : IsBareName field.1) :
    ∃ c cs, fieldLine field = c :: cs ∧ Toml.isBare c = true := by
  obtain ⟨c, cs, same, first⟩ := bare.eq_cons
  refine ⟨c, cs ++ [' ', '=', ' '] ++ Toml.writeText field.2 ++ ['\n'], ?_, first⟩
  rw [fieldLine, same]
  rfl

private theorem line?_fieldLine (bare : IsBareName field.1) (rest : List Char) :
    Toml.line? (fieldLine field ++ rest) = some (textLine field, rest) := by
  simpa [fieldLine] using Toml.line?_textLine bare field.2 rest

private theorem linesWithin?_fieldLines (bare : ∀ field ∈ fields, IsBareName field.1) {bound : Nat}
    (enough : fields.length ≤ bound) :
    Toml.linesWithin? bound (fields.flatMap fieldLine) = some (fields.map textLine) := by
  induction fields generalizing bound with
  | nil =>
    rw [List.flatMap_nil, Toml.linesWithin?.eq_def]
    rfl
  | cons field fields ih =>
    obtain ⟨first, others⟩ := List.forall_mem_cons.mp bare
    obtain ⟨less, rfl⟩ : ∃ less, bound = less + 1 :=
      Nat.exists_eq_add_one.mpr (Nat.zero_lt_of_lt enough)
    have read := line?_fieldLine first (fields.flatMap fieldLine)
    obtain ⟨c, cs, same, start⟩ := fieldLine_eq_cons first
    rw [same, List.cons_append] at read
    rw [List.flatMap_cons, same, List.cons_append, Toml.linesWithin?.eq_def]
    simp only [Toml.dropLines_of_isBare start, read, ih others (Nat.le_of_succ_le_succ enough),
      Option.map_some, List.map_cons]

private theorem length_le_flatMap_fieldLine (fields : List (String × String)) :
    fields.length ≤ (fields.flatMap fieldLine).length := by
  induction fields with
  | nil => exact Nat.le_refl 0
  | cons field fields ih =>
    have positive : 0 < (fieldLine field).length := by
      rw [fieldLine, List.length_append]
      exact Nat.succ_pos _
    rw [List.flatMap_cons, List.length_append, List.length_cons]
    omega

private theorem parse?_fieldLines (bare : ∀ field ∈ fields, IsBareName field.1)
    (distinct : (fields.map Prod.fst).Nodup) :
    Toml.parse? (String.ofList (fields.flatMap fieldLine)) = some (fields.map textNode) := by
  have lines := linesWithin?_fieldLines bare (length_le_flatMap_fieldLine fields)
  have read : Toml.lines? (fields.flatMap fieldLine) = some (fields.map textLine) := by
    cases fields with
    | nil => rfl
    | cons field fields =>
      obtain ⟨c, cs, same, start⟩ := fieldLine_eq_cons (bare field List.mem_cons_self)
      have mark : c ≠ '\ufeff' := Toml.ne_of_isBare start (by decide)
      rw [List.flatMap_cons, same, List.cons_append] at lines ⊢
      rw [Toml.lines?, lines]
      simp [mark]
  rw [Toml.parse?, String.toList_ofList, read]
  exact Toml.ofLines?_textLines distinct

end Lines

def names : List String :=
  ["overlap_policy", "prompt", "session_prompt", "saves_dir", "record_extension"]

private theorem map_fst_fields (s : Settings) : s.fields.map Prod.fst = names := rfl

private theorem isBareName_of_mem_fields (s : Settings) :
    ∀ field ∈ s.fields, IsBareName field.1 := by
  have all : ∀ name ∈ names, IsBareName name := by
    simp [names, IsBareName, Toml.isBare]
  exact fun field member => all _ (s.map_fst_fields ▸ List.mem_map_of_mem member)

private theorem ofTable?_fields (s : Settings) : ofTable? (s.fields.map textNode) = some s := by
  simp [ofTable?, policyField?, policyOfNode?, OverlapPolicy.ofName?_name, textField?, fields,
    textNode, List.lookup_cons]

/-- What is written is read back, whatever characters the texts hold. -/
theorem ofText_toText (s : Settings) : ofText s.toText = .ok s := by
  have distinct : (s.fields.map Prod.fst).Nodup := by
    rw [map_fst_fields]
    decide
  have table := parse?_fieldLines s.isBareName_of_mem_fields distinct
  rw [ofText, toText, table, Option.bind_some, ofTable?_fields]

end Settings

end ProfileShell
