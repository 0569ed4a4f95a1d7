import ProfileShell.Proofs.Toml.Quotation
import ProfileShell.Toml.Document

/-!
A document of fields with bare names and texts is read as these fields.

Each field takes one line: its name, an equals sign between blanks, and its text in whatever form
it is written. The line is read in front of anything, and the table grows by one field a line as
long as no name comes twice.
-/

set_option autoImplicit false
set_option relaxedAutoImplicit false

namespace ProfileShell.Toml

def IsBareName (name : String) : Prop :=
  name ≠ "" ∧ ∀ c ∈ name.toList, isBare c = true

instance (name : String) : Decidable (IsBareName name) :=
  inferInstanceAs (Decidable (_ ∧ _))

section Line

variable {c : Char} {name : String}

theorem ne_of_isBare {d : Char} (bare : isBare c = true) (other : isBare d = false) : c ≠ d := by
  rintro rfl
  rw [bare] at other
  cases other

private theorem isBlank_of_isBare (bare : isBare c = true) : isBlank c = false := by
  have space : c ≠ ' ' := ne_of_isBare bare (by decide)
  have tab : c ≠ '\t' := ne_of_isBare bare (by decide)
  simp [isBlank, space, tab]

theorem IsBareName.eq_cons (bare : IsBareName name) :
    ∃ c cs, name.toList = c :: cs ∧ isBare c = true := by
  obtain ⟨nonempty, all⟩ := bare
  cases same : name.toList with
  | nil => exact absurd (String.toList_eq_nil_iff.mp same) nonempty
  | cons c cs => exact ⟨c, cs, rfl, all c (same ▸ List.mem_cons_self)⟩

theorem dropLines_of_isBare (bare : isBare c = true) (cs : List Char) :
    dropLines false (c :: cs) = some (c :: cs) := by
  have feed : c ≠ '\n' := ne_of_isBare bare (by decide)
  have carriage : c ≠ '\r' := ne_of_isBare bare (by decide)
  have comment : c ≠ '#' := ne_of_isBare bare (by decide)
  rw [dropLines] <;> simp [isBlank_of_isBare bare, feed, carriage, comment]

private theorem name?_of_isBareName (bare : IsBareName name) (rest : List Char) :
    name? (name.toList ++ ' ' :: rest) = some (name, ' ' :: rest) := by
  have taken : (name.toList ++ ' ' :: rest).takeWhile isBare = name.toList := by
    rw [List.takeWhile_append_of_pos bare.2, List.takeWhile_cons_of_neg (by decide),
      List.append_nil]
  have left : (name.toList ++ ' ' :: rest).dropWhile isBare = ' ' :: rest := by
    rw [List.dropWhile_append_of_pos bare.2, List.dropWhile_cons_of_neg (by decide)]
  obtain ⟨c, cs, same, first⟩ := bare.eq_cons
  have double : c ≠ '"' := ne_of_isBare first (by decide)
  have single : c ≠ '\'' := ne_of_isBare first (by decide)
  have long : name.toList.isEmpty = false := by rw [same]; rfl
  rw [name?, taken, left, long, String.ofList_toList]
  · rfl
  all_goals simp [same, double, single]

private theorem key?_of_isBareName (bare : IsBareName name) (rest : List Char) :
    key? (name.toList ++ ' ' :: '=' :: rest) = some (⟨[], name⟩, '=' :: rest) := by
  have stay : dropBlanks (name.toList ++ ' ' :: '=' :: rest) =
      name.toList ++ ' ' :: '=' :: rest := by
    obtain ⟨c, cs, same, first⟩ := bare.eq_cons
    rw [same]
    exact List.dropWhile_cons_of_neg (by simp [isBlank_of_isBare first])
  have drop : dropBlanks (' ' :: '=' :: rest) = '=' :: rest := by
    simp [dropBlanks, isBlank]
  have count : maxNames = 78 + 1 := rfl
  rw [key?, count, keyWithin?, stay, name?_of_isBareName bare]
  simp only [drop]
  rfl

private theorem writeText_eq_cons (s : String) :
    ∃ quote cs, writeText s = quote :: cs ∧ (quote = '"' ∨ quote = '\'') := by
  unfold writeText
  cases TextForm.of s.toList with
  | basic => exact ⟨'"', _, rfl, .inl rfl⟩
  | literal => exact ⟨'\'', _, rfl, .inr rfl⟩
  | multilineBasic => exact ⟨'"', _, rfl, .inl rfl⟩
  | multilineLiteral => exact ⟨'\'', _, rfl, .inr rfl⟩

private theorem value?_writeText (s : String) (rest : List Char) :
    value? (writeText s ++ '\n' :: rest) = some (.text s, '\n' :: rest) := by
  have read : text? (writeText s ++ '\n' :: rest) = some (s, '\n' :: rest) :=
    text?_writeText s (by simp) (by simp)
  obtain ⟨quote, cs, same, kind⟩ := writeText_eq_cons s
  rw [same, List.cons_append] at read ⊢
  rcases kind with rfl | rfl <;> simp [value?, valueWithin?, scalarNode?, read]

private theorem field?_writeText (bare : IsBareName name) (value : String) (rest : List Char) :
    field? value? (name.toList ++ ' ' :: '=' :: ' ' :: (writeText value ++ '\n' :: rest)) =
      some ((⟨[], name⟩, .text value), '\n' :: rest) := by
  have start : dropBlanks (' ' :: (writeText value ++ '\n' :: rest)) =
      writeText value ++ '\n' :: rest := by
    obtain ⟨quote, cs, same, kind⟩ := writeText_eq_cons value
    rw [same]
    rcases kind with rfl | rfl <;> simp [dropBlanks, isBlank]
  have stop : dropBlanks ('\n' :: rest) = '\n' :: rest := by
    simp [dropBlanks, isBlank]
  simp only [field?, key?_of_isBareName bare, start, value?_writeText, Option.map_some, stop]

def textLine (field : String × String) : Line :=
  .field ⟨[], field.1⟩ (.text field.2)

theorem line?_textLine (bare : IsBareName name) (value : String) (rest : List Char) :
    line? (name.toList ++ ' ' :: '=' :: ' ' :: (writeText value ++ '\n' :: rest)) =
      some (textLine (name, value), rest) := by
  have field := field?_writeText bare value rest
  have body : lineBody? (name.toList ++ ' ' :: '=' :: ' ' :: (writeText value ++ '\n' :: rest)) =
      some (textLine (name, value), '\n' :: rest) := by
    obtain ⟨c, cs, same, first⟩ := bare.eq_cons
    have bracket : c ≠ '[' := ne_of_isBare first (by decide)
    rw [same, List.cons_append] at field ⊢
    rw [lineBody?, field]
    · rfl
    all_goals simp [bracket]
  simp [line?, body, lineEnd?]

end Line

section Table

variable {fields : Fields} {name : String}

private theorem Fields.set_of_lookup_eq_none (fresh : fields.lookup name = none) (node : Node) :
    Fields.set name node fields = fields ++ [(name, node)] := by
  induction fields with
  | nil => rfl
  | cons field fields ih =>
    rw [List.lookup_cons] at fresh
    split at fresh
    · cases fresh
    · rename_i other
      have apart : field.1 ≠ name := fun same => by simp [same] at other
      rw [Fields.set, if_neg apart, ih fresh, List.cons_append]

private theorem lookup_eq_none_of_not_mem (fresh : name ∉ fields.map Prod.fst) :
    fields.lookup name = none := by
  rw [List.lookup_eq_none_iff]
  intro field member
  simp only [bne_iff_ne]
  rintro rfl
  exact fresh (List.mem_map_of_mem member)

def textNode (field : String × String) : String × Node :=
  (field.1, .text field.2)

private theorem add_textLine (fresh : name ∉ fields.map Prod.fst) (value : String) :
    Draft.add ⟨fields, []⟩ (textLine (name, value)) =
      some ⟨fields ++ [textNode (name, value)], []⟩ := by
  simp only [Draft.add, textLine, Fields.within, Fields.insert, lookup_eq_none_of_not_mem fresh,
    Fields.set_of_lookup_eq_none (lookup_eq_none_of_not_mem fresh), Option.map_some, textNode]

private theorem foldlM_textLines {texts : List (String × String)}
    (distinct : (fields.map Prod.fst ++ texts.map Prod.fst).Nodup) :
    (texts.map textLine).foldlM Draft.add ⟨fields, []⟩ =
      some ⟨fields ++ texts.map textNode, []⟩ := by
  induction texts generalizing fields with
  | nil => simp
  | cons text texts ih =>
    have fresh : text.1 ∉ fields.map Prod.fst := fun member =>
      (List.nodup_append.mp distinct).2.2 _ member _ List.mem_cons_self rfl
    rw [List.map_cons, List.foldlM_cons, add_textLine fresh]
    change List.foldlM _ _ _ = _
    rw [ih (by simpa [textNode] using distinct), List.append_assoc]
    rfl

theorem ofLines?_textLines {texts : List (String × String)}
    (distinct : (texts.map Prod.fst).Nodup) :
    Fields.ofLines? (texts.map textLine) = some (texts.map textNode) := by
  rw [Fields.ofLines?, foldlM_textLines (by simpa using distinct)]
  rfl

end Table

end ProfileShell.Toml
