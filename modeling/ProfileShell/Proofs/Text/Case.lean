import ProfileShell.Text.Case

/-!
What the tables of letters tell of small forms.

A capital is never a small letter. A character that is not its own small form has small forms that
are, and that are no capitals, so to make a text small a second time changes nothing. There are
capitals that are their own small form, and they stay capitals.
-/

set_option autoImplicit false
set_option relaxedAutoImplicit false

namespace ProfileShell.Text

namespace Case

namespace Span

variable {s t : Span} {n : Nat}

def shifted (s : Span) (first : Nat) : Span :=
  ⟨first, first + (s.last - s.first), s.step⟩

/-- All code points of the span are even, or all are odd. -/
def isOfOneParity (s : Span) : Bool :=
  s.step == 2 || s.first == s.last

/-- One span ends before the other one starts, or one is even and the other one odd. -/
def isApart (s t : Span) : Bool :=
  Nat.blt s.last t.first || Nat.blt t.last s.first ||
    (s.isOfOneParity && t.isOfOneParity && (s.first + t.first) % 2 == 1)

def allApart (ss ts : List Span) : Bool :=
  ss.all fun s => ts.all fun t => s.isApart t

private theorem holds_iff :
    s.holds n = true ↔ s.first ≤ n ∧ n ≤ s.last ∧ (n - s.first) % s.step = 0 := by
  simp [holds, and_assoc]

private theorem mod_two_of_holds (one : s.isOfOneParity = true) (held : s.holds n = true) :
    n % 2 = s.first % 2 := by
  obtain ⟨low, high, steps⟩ := holds_iff.mp held
  rw [isOfOneParity, Bool.or_eq_true, beq_iff_eq, beq_iff_eq] at one
  rcases one with two | single
  · rw [two] at steps
    omega
  · have same : n = s.first := by omega
    rw [same]

private theorem not_holds_of_isApart (apart : s.isApart t = true) (held : s.holds n = true) :
    t.holds n = false := by
  rw [← Bool.not_eq_true]
  intro heldToo
  have inside := holds_iff.mp held
  have insideToo := holds_iff.mp heldToo
  simp only [isApart, Bool.or_eq_true, Bool.and_eq_true, Nat.blt_eq, beq_iff_eq] at apart
  rcases apart with (before | after) | ⟨⟨one, oneToo⟩, different⟩
  · omega
  · omega
  · have parity := mod_two_of_holds one held
    have parityToo := mod_two_of_holds oneToo heldToo
    omega

private theorem any_holds_of_allApart {ss ts : List Span} (apart : allApart ss ts = true)
    (member : s ∈ ss) (held : s.holds n = true) : (ts.any fun t => t.holds n) = false := by
  rw [List.any_eq_false]
  intro t memberToo
  have different := List.all_eq_true.mp (List.all_eq_true.mp apart s member) t memberToo
  rw [not_holds_of_isApart different held]
  exact Bool.false_ne_true

private theorem holds_shifted (held : s.holds n = true) (first : Nat) :
    (s.shifted first).holds (first + (n - s.first)) = true := by
  obtain ⟨low, high, steps⟩ := holds_iff.mp held
  refine holds_iff.mpr ⟨Nat.le_add_right .., ?_, ?_⟩
  · change first + (n - s.first) ≤ first + (s.last - s.first)
    omega
  · change (first + (n - s.first) - first) % s.step = 0
    rwa [Nat.add_sub_cancel_left]

end Span

def smallFormSpans : List Span :=
  smallForms.map fun entry => entry.1.shifted entry.2

private theorem capitals_apart_smalls : Span.allApart capitals smalls = true := by
  decide +kernel

private theorem smallForms_apart_capitals : Span.allApart smallFormSpans capitals = true := by
  decide +kernel

private theorem smallForms_apart :
    Span.allApart smallFormSpans (smallForms.map Prod.fst) = true := by
  decide +kernel

private theorem smallForms_range :
    ∀ entry ∈ smallForms, 0x60 < entry.2 ∧
      (entry.2 + (entry.1.last - entry.1.first) < 0xD800 ∨
        0xDFFF < entry.2 ∧ entry.2 + (entry.1.last - entry.1.first) < 0x110000) := by
  decide +kernel

private theorem dotted_not_small_form : ∀ s ∈ smallFormSpans, s.holds 0x130 = false := by
  decide +kernel

end Case

variable {c d : Char}

theorem isSmall_of_isCapital (capital : isCapital c = true) : isSmall c = false := by
  obtain ⟨s, member, held⟩ := List.any_eq_true.mp capital
  exact Case.Span.any_holds_of_allApart Case.capitals_apart_smalls member held

private theorem smallForm_cases (c : Char) :
    smallForm c = [c] ∨ smallForm c = [Char.ofNat 0x69, Char.ofNat 0x307] ∨
      ∃ s ∈ Case.smallFormSpans, ∃ d, smallForm c = [d] ∧ s.holds d.toNat = true ∧
        0x60 < d.toNat := by
  unfold smallForm
  split
  · exact Or.inr (Or.inl rfl)
  · cases found : Case.smallForms.find? fun entry => entry.1.holds c.toNat with
    | none => exact Or.inl rfl
    | some entry =>
      obtain ⟨s, small⟩ := entry
      right; right
      have member := List.mem_of_find?_eq_some found
      have held := List.find?_some found
      have range := Case.smallForms_range _ member
      simp only at held range
      obtain ⟨low, high, -⟩ := Case.Span.holds_iff.mp held
      have valid : (small + (c.toNat - s.first)).isValidChar := by
        unfold Nat.isValidChar
        omega
      have value : (Char.ofNat (small + (c.toNat - s.first))).toNat =
          small + (c.toNat - s.first) := by
        rw [Char.ofNat, dif_pos valid]
        rfl
      refine ⟨_, List.mem_map_of_mem member, _, rfl, ?_, ?_⟩
      · rw [value]
        exact Case.Span.holds_shifted held small
      · omega

/-- What is not its own small form has small forms that lie behind the ASCII capitals and signs. -/
theorem smallForm_eq_or (c : Char) :
    smallForm c = [c] ∨ smallForm c ≠ [] ∧ ∀ d ∈ smallForm c, 0x60 < d.toNat := by
  rcases smallForm_cases c with same | dotted | ⟨-, -, d, small, -, high⟩
  · exact Or.inl same
  · right
    rw [dotted]
    refine ⟨List.cons_ne_nil _ _, ?_⟩
    intro d member
    rw [List.mem_cons, List.mem_singleton] at member
    rcases member with rfl | rfl <;> decide
  · right
    rw [small]
    exact ⟨List.cons_ne_nil _ _, fun _ member => List.mem_singleton.mp member ▸ high⟩

theorem smallForm_ne_nil (c : Char) : smallForm c ≠ [] := by
  rcases smallForm_eq_or c with same | ⟨nonempty, -⟩
  · rw [same]
    exact List.cons_ne_nil c []
  · exact nonempty

theorem mem_smallForm_iff_of_low (low : d.toNat ≤ 0x60) (own : smallForm d = [d]) :
    d ∈ smallForm c ↔ d = c := by
  constructor
  · intro member
    rcases smallForm_eq_or c with same | ⟨-, high⟩
    · rw [same] at member
      exact List.mem_singleton.mp member
    · have above := high d member
      omega
  · rintro rfl
    rw [own]
    exact List.mem_singleton_self d

/-- The small forms of other characters are no capitals and have no other small form. -/
theorem settled_of_mem_smallForm (changed : smallForm c ≠ [c]) (member : d ∈ smallForm c) :
    isCapital d = false ∧ smallForm d = [d] := by
  rcases smallForm_cases c with same | dotted | ⟨s, listed, e, small, held, -⟩
  · exact absurd same changed
  · rw [dotted, List.mem_cons, List.mem_singleton] at member
    rcases member with rfl | rfl <;> decide +kernel
  · rw [small, List.mem_singleton] at member
    subst member
    refine ⟨Case.Span.any_holds_of_allApart Case.smallForms_apart_capitals listed held, ?_⟩
    have dotless : d.toNat ≠ 0x130 := by
      intro dotted
      rw [dotted, Case.dotted_not_small_form s listed] at held
      cases held
    have unlisted : (Case.smallForms.find? fun entry => entry.1.holds d.toNat) = none := by
      have none := Case.Span.any_holds_of_allApart Case.smallForms_apart listed held
      rw [List.any_map] at none
      exact List.find?_eq_none.mpr (List.any_eq_false.mp none)
    rw [smallForm, if_neg dotless, unlisted]

theorem smallForm_of_mem_smallForm (member : d ∈ smallForm c) : smallForm d = [d] := by
  by_cases same : smallForm c = [c]
  · rw [same, List.mem_singleton] at member
    rw [member, same]
  · exact (settled_of_mem_smallForm same member).2

end ProfileShell.Text
