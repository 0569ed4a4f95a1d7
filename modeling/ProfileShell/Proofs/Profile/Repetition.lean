import ProfileShell.Proofs.Profile.Separation

/-!
The snake-case form of a form.

A form holds small forms and underscores, so its own form changes no character and can only have
more underscores. There is one case in which it has: some capitals have no small form and stay in
the form, and there they may stand beside a letter that was made small. The form of that form is its
own form.
-/

set_option autoImplicit false
set_option relaxedAutoImplicit false

namespace ProfileShell.Profile

open Text (isCapital isSmall smallForm)

variable {previous : Option Char} {p c d : Char} {cs rest : List Char}

def keepsCapital (c : Char) : Bool :=
  isCapital c && smallForm c == [c]

def smallEnd (c : Char) : Char :=
  (smallForm c).getLast (Text.smallForm_ne_nil c)

private theorem smallEnd_of_own (own : smallForm c = [c]) : smallEnd c = c := by
  simp [smallEnd, own]

private theorem smallEnd_mem (c : Char) : smallEnd c ∈ smallForm c :=
  List.getLast_mem (Text.smallForm_ne_nil c)

private theorem smallEnd_eq_underscore_iff : smallEnd p = '_' ↔ p = '_' := by
  constructor
  · intro underscore
    exact Text.underscore_mem_smallForm_iff.mp (underscore ▸ smallEnd_mem p)
  · rintro rfl
    exact smallEnd_of_own Text.smallForm_underscore

private theorem smallEnd_of_isDigit (digit : (smallEnd p).isDigit = true) : smallEnd p = p := by
  rcases Text.smallForm_eq_or p with own | ⟨-, high⟩
  · exact smallEnd_of_own own
  · have above := high _ (smallEnd_mem p)
    have low : (smallEnd p).toNat ≤ 57 := (Char.isDigit_iff_toNat.mp digit).2
    omega

section Settled

/-! Characters that are their own small forms. -/

private theorem mem_snakeFrom (member : d ∈ snakeFrom previous cs) :
    d = '_' ∨ ∃ c ∈ cs, d ∈ smallForm c := by
  induction cs generalizing previous with
  | nil => cases member
  | cons c cs ih =>
    rw [snakeFrom, List.mem_append, List.mem_append] at member
    rcases member with (lead | own) | later
    · split at lead
      · exact Or.inl (List.mem_singleton.mp lead)
      · cases lead
    · exact Or.inr ⟨c, List.mem_cons_self, own⟩
    · rcases ih later with underscore | ⟨e, inside, small⟩
      · exact Or.inl underscore
      · exact Or.inr ⟨e, List.mem_cons_of_mem c inside, small⟩

private theorem smallForm_of_mem_snakeFrom (member : d ∈ snakeFrom previous cs) :
    smallForm d = [d] := by
  rcases mem_snakeFrom member with rfl | ⟨c, -, small⟩
  · exact Text.smallForm_underscore
  · exact Text.smallForm_of_mem_smallForm small

private theorem map_joinSeparator_form (cs : List Char) :
    (form cs).map joinSeparator = form cs := by
  have joined : ∀ c ∈ cs.map joinSeparator, c ≠ ' ' ∧ c ≠ '-' := by
    intro c member
    obtain ⟨d, -, rfl⟩ := List.mem_map.mp member
    unfold joinSeparator
    split <;> simp_all
  have kept : ∀ d ∈ form cs, joinSeparator d = d := by
    intro d member
    have other : d ≠ ' ' ∧ d ≠ '-' := by
      rcases mem_snakeFrom member with rfl | ⟨c, inside, small⟩
      · decide
      · constructor
        · rintro rfl
          exact (joined c inside).1
            ((Text.mem_smallForm_iff_of_low (by decide) (by decide +kernel)).mp small).symm
        · rintro rfl
          exact (joined c inside).2
            ((Text.mem_smallForm_iff_of_low (by decide) (by decide +kernel)).mp small).symm
    simp [joinSeparator, other.1, other.2]
  calc (form cs).map joinSeparator
      = (form cs).map fun d => d := List.map_congr_left kept
    _ = form cs := List.map_id' _

private theorem toList_snakeCase_snakeCase (name : String) :
    (snakeCase (snakeCase name)).toList = snakeFrom none (form name.toList) := by
  rw [toList_snakeCase, toList_snakeCase, form, map_joinSeparator_form]

/-- Among characters that are their own small forms, what follows a character in the form starts a
word there only if what follows it at first does. -/
private theorem startsWord_of_snakeFrom (own : ∀ d ∈ cs, smallForm d = [d])
    (starts : startsWord previous c (snakeFrom (some c) cs).head? = true) :
    startsWord previous c cs.head? = true := by
  cases cs with
  | nil => exact starts
  | cons d cs =>
    rw [snakeFrom, own d List.mem_cons_self] at starts
    split at starts
    · -- An underscore follows in the form, so what follows is of no account.
      obtain ⟨capital, p, rfl, other⟩ := exists_of_startsWord starts
      have alone : isSmall p = true ∨ p.isDigit = true := by
        simpa [startsWord, capital, other, Text.isSmall_underscore] using starts
      rcases alone with small | digit
      · simp [startsWord, capital, other, small]
      · simp [startsWord, capital, other, digit]
    · exact starts

private theorem snakeFrom_snakeFrom (own : ∀ c ∈ cs, smallForm c = [c]) (previous : Option Char) :
    snakeFrom previous (snakeFrom previous cs) = snakeFrom previous cs := by
  induction cs generalizing previous with
  | nil => rfl
  | cons c cs ih =>
    have single : smallForm c = [c] := own c List.mem_cons_self
    have later := ih (fun d inside => own d (List.mem_cons_of_mem c inside)) (some c)
    by_cases starts : startsWord previous c cs.head? = true
    · have out : snakeFrom previous (c :: cs) = '_' :: c :: snakeFrom (some c) cs := by
        rw [snakeFrom, if_pos starts, single]
        rfl
      rw [out, snakeFrom_underscore, snakeFrom, single, later]
      rfl
    · have out : snakeFrom previous (c :: cs) = c :: snakeFrom (some c) cs := by
        rw [snakeFrom, if_neg starts, single]
        rfl
      have still : ¬startsWord previous c (snakeFrom (some c) cs).head? = true :=
        mt (startsWord_of_snakeFrom fun d inside => own d (List.mem_cons_of_mem c inside)) starts
      rw [out, snakeFrom, if_neg still, single, later]
      rfl

end Settled

/-- The form has no underscore before a capital that it keeps, but has a small letter beside it
where the name has none. -/
structure Overlooked (p c : Char) (rest : List Char) : Prop where
  capital : keepsCapital c = true
  behind : p ≠ '_'
  unparted : startsWord (some p) c rest.head? = false
  beside : isSmall (smallEnd p) = true ∨ (snakeFrom (some c) rest).head?.any isSmall = true

private theorem snakeFrom_append_of_plain
    (plain : ∀ d ∈ cs, isCapital d = false ∧ smallForm d = [d])
    (nonempty : cs ≠ []) (previous : Option Char) (rest : List Char) :
    snakeFrom previous (cs ++ rest) = cs ++ snakeFrom (some (cs.getLast nonempty)) rest := by
  induction cs generalizing previous with
  | nil => exact absurd rfl nonempty
  | cons c cs ih =>
    obtain ⟨small, own⟩ := plain c List.mem_cons_self
    have unparted : startsWord previous c (cs ++ rest).head? = false := by
      rw [← Bool.not_eq_true]
      intro starts
      rw [(exists_of_startsWord starts).1] at small
      cases small
    rw [List.cons_append, snakeFrom, unparted, own]
    by_cases last : cs = []
    · subst last
      rfl
    · rw [ih (fun d inside => plain d (List.mem_cons_of_mem c inside)) last,
        List.getLast_cons last]
      rfl

private theorem snakeFrom_append_smallForm (previous : Option Char) (c : Char) (rest : List Char) :
    snakeFrom previous (smallForm c ++ rest) =
      (if keepsCapital c && startsWord previous c rest.head? then ['_'] else []) ++ smallForm c ++
        snakeFrom (some (smallEnd c)) rest := by
  by_cases own : smallForm c = [c]
  · have same : (keepsCapital c && startsWord previous c rest.head?) =
        startsWord previous c rest.head? := by
      rw [Bool.and_eq_right_iff_imp]
      intro starts
      simp [keepsCapital, own, (exists_of_startsWord starts).1]
    rw [same, smallEnd_of_own own, own, List.singleton_append, snakeFrom, own]
  · have other : keepsCapital c = false := by simp [keepsCapital, own]
    rw [other, Bool.false_and]
    exact snakeFrom_append_of_plain (fun d => Text.settled_of_mem_smallForm own)
      (Text.smallForm_ne_nil c) previous rest

private theorem overlooked_iff (unparted : startsWord (some p) c rest.head? = false) :
    (keepsCapital c && startsWord (some (smallEnd p)) c (snakeFrom (some c) rest).head?) = true ↔
      Overlooked p c rest := by
  constructor
  · intro both
    obtain ⟨capital, starts⟩ := Bool.and_eq_true_iff.mp both
    have letter : isCapital c = true := (exists_of_startsWord starts).1
    simp only [startsWord, Bool.and_eq_true, Bool.or_eq_true, bne_iff_ne] at starts
    obtain ⟨⟨-, other⟩, beside⟩ := starts
    refine ⟨capital, mt smallEnd_eq_underscore_iff.mpr other, unparted, ?_⟩
    rcases beside with (small | digit) | small
    · exact Or.inl small
    · -- A digit stands in the name as well and parts the capital from itself there.
      have same := smallEnd_of_isDigit digit
      rw [same] at digit other
      simp [startsWord, letter, other, digit] at unparted
    · exact Or.inr small
  · rintro ⟨capital, behind, -, beside⟩
    have letter : isCapital c = true := (Bool.and_eq_true_iff.mp capital).1
    have other : smallEnd p ≠ '_' := mt smallEnd_eq_underscore_iff.mp behind
    rcases beside with small | small <;> simp [startsWord, capital, letter, other, small]

private theorem forall_neighbours_cons {P : Char → Char → List Char → Prop} :
    (∀ front q d rest, p :: c :: cs = front ++ q :: d :: rest → P q d rest) ↔
      P p c cs ∧ ∀ front q d rest, c :: cs = front ++ q :: d :: rest → P q d rest := by
  constructor
  · intro all
    refine ⟨all [] p c cs rfl, ?_⟩
    intro front q d rest whole
    exact all (p :: front) q d rest (congrArg (p :: ·) whole)
  · rintro ⟨first, later⟩ front q d rest whole
    cases front with
    | nil =>
      have same : p = q ∧ c = d ∧ cs = rest := by simpa using whole
      obtain ⟨rfl, rfl, rfl⟩ := same
      exact first
    | cons e front => exact later front q d rest (List.tail_eq_of_cons_eq whole)

/-- To make the form of a form changes something exactly where a capital was overlooked. -/
private theorem snakeFrom_again_iff :
    snakeFrom (some (smallEnd p)) (snakeFrom (some p) cs) = snakeFrom (some p) cs ↔
      ∀ front q c rest, p :: cs = front ++ q :: c :: rest → ¬Overlooked q c rest := by
  induction cs generalizing p with
  | nil =>
    refine iff_of_true rfl ?_
    intro front q c rest whole
    have lengths := congrArg List.length whole
    simp only [List.length_append, List.length_cons, List.length_nil] at lengths
    omega
  | cons c cs ih =>
    rw [forall_neighbours_cons, ← ih]
    by_cases starts : startsWord (some p) c cs.head? = true
    · have parted : ¬Overlooked p c cs := by
        intro overlooked
        rw [overlooked.unparted] at starts
        cases starts
      rw [and_iff_right parted, snakeFrom, if_pos starts, List.append_assoc, List.singleton_append,
        snakeFrom_underscore, snakeFrom_append_smallForm]
      simp [startsWord]
    · rw [Bool.not_eq_true] at starts
      rw [snakeFrom, starts]
      change snakeFrom _ (smallForm c ++ _) = smallForm c ++ _ ↔ _
      rw [snakeFrom_append_smallForm, ← overlooked_iff starts]
      by_cases overlooked : (keepsCapital c && startsWord (some (smallEnd p)) c
          (snakeFrom (some c) cs).head?) = true
      · -- The second form has an underscore where the first one has a capital.
        have own : smallForm c = [c] :=
          beq_iff_eq.mp (Bool.and_eq_true_iff.mp (Bool.and_eq_true_iff.mp overlooked).1).2
        have capital := (exists_of_startsWord (Bool.and_eq_true_iff.mp overlooked).2).1
        rw [if_pos overlooked, own]
        refine iff_of_false ?_ (fun both => both.1 overlooked)
        intro same
        have first : '_' = c := List.head_eq_of_cons_eq same
        rw [← first, Text.isCapital_underscore] at capital
        cases capital
      · rw [if_neg overlooked, List.nil_append, List.append_cancel_left_eq]
        exact (and_iff_right overlooked).symm

private theorem form_again_iff (cs : List Char) :
    snakeFrom none (form cs) = form cs ↔
      ∀ front p c rest, cs.map joinSeparator = front ++ p :: c :: rest → ¬Overlooked p c rest := by
  rw [form]
  cases cs.map joinSeparator with
  | nil =>
    refine iff_of_true rfl ?_
    intro front p c rest whole
    exact absurd whole.symm (List.append_ne_nil_of_right_ne_nil front (List.cons_ne_nil p _))
  | cons p cs =>
    change snakeFrom none (smallForm p ++ snakeFrom (some p) cs) = smallForm p ++ _ ↔ _
    rw [snakeFrom_append_smallForm, ← snakeFrom_again_iff]
    simp [startsWord]

private theorem keepsCapital_joinSeparator (kept : keepsCapital (joinSeparator c) = true) :
    joinSeparator c = c := by
  apply joinSeparator_of_other
  rw [← Bool.not_eq_true]
  intro separator
  rw [joinSeparator_eq_underscore_iff.mpr separator, keepsCapital,
    Text.isCapital_underscore] at kept
  cases kept

/-- The form of a form is the form itself exactly if no capital is overlooked. So it is for every
name in which each capital has another small form. In any case it holds the same characters beside
the underscores, and its own form is itself. -/
theorem snakeCase_snakeCase_eq_iff (name : String) :
    (snakeCase (snakeCase name) = snakeCase name ↔
        ∀ front p c rest, name.toList.map joinSeparator = front ++ p :: c :: rest →
          ¬Overlooked p c rest) ∧
      ((∀ c ∈ name.toList, keepsCapital c = false) → snakeCase (snakeCase name) = snakeCase name) ∧
      (snakeCase (snakeCase name)).toList.filter (· != '_') =
        (snakeCase name).toList.filter (· != '_') ∧
      snakeCase (snakeCase (snakeCase name)) = snakeCase (snakeCase name) := by
  have own : ∀ d ∈ form name.toList, smallForm d = [d] := fun d => smallForm_of_mem_snakeFrom
  have again : snakeCase (snakeCase name) = snakeCase name ↔
      ∀ front p c rest, name.toList.map joinSeparator = front ++ p :: c :: rest →
        ¬Overlooked p c rest := by
    rw [← String.toList_inj, toList_snakeCase_snakeCase, toList_snakeCase, form_again_iff]
  refine ⟨again, ?_, ?_, ?_⟩
  · intro small
    rw [again]
    intro front p c rest whole overlooked
    have member : c ∈ name.toList.map joinSeparator := by simp [whole]
    obtain ⟨d, inside, rfl⟩ := List.mem_map.mp member
    have kept := overlooked.capital
    rw [keepsCapital_joinSeparator kept, small d inside] at kept
    cases kept
  · rw [toList_snakeCase_snakeCase, toList_snakeCase, filter_snakeFrom]
    calc ((form name.toList).filter (· != '_')).flatMap smallForm
        = ((form name.toList).filter (· != '_')).flatMap fun d => [d] :=
          List.flatMap_congr fun d member => own d (List.mem_filter.mp member).1
      _ = (form name.toList).filter (· != '_') := List.flatMap_singleton' _
  · rw [← String.toList_inj, toList_snakeCase_snakeCase, ← toList_snakeCase,
      toList_snakeCase_snakeCase]
    exact snakeFrom_snakeFrom own none

/-- Capitals with small forms throughout, and a kept capital beside one that is made small. -/
theorem snakeCase_snakeCase_eq_iff_doubleStruck :
    (∀ c ∈ "HTTPGet".toList, keepsCapital c = false) ∧
      snakeCase (snakeCase "HTTPGet") = snakeCase "HTTPGet" ∧
      Overlooked 'A' 'ℂ' [] ∧ snakeCase (snakeCase "Aℂ") ≠ snakeCase "Aℂ" := by
  have small : ∀ c ∈ "HTTPGet".toList, keepsCapital c = false := by
    have every : ("HTTPGet".toList.all fun c => !keepsCapital c) = true := by decide +kernel
    simpa using every
  have overlooked : Overlooked 'A' 'ℂ' [] :=
    ⟨by decide +kernel, by decide, by decide +kernel, Or.inl (by decide +kernel)⟩
  refine ⟨small, (snakeCase_snakeCase_eq_iff "HTTPGet").2.1 small, overlooked, ?_⟩
  intro same
  exact (snakeCase_snakeCase_eq_iff "Aℂ").1.mp same [] 'A' 'ℂ' [] (by decide +kernel) overlooked

/-- The double-struck capital stays beside a letter that becomes small. -/
theorem kept_capital_is_parted_later :
    snakeCase "Aℂ" = "aℂ" ∧ snakeCase (snakeCase "Aℂ") = "a_ℂ" ∧
      snakeCase (snakeCase "Aℂ") ≠ snakeCase "Aℂ" := by
  decide +kernel

end ProfileShell.Profile
