import ProfileShell.Proofs.Profile.Naming
import ProfileShell.Proofs.Text.Case

/-!
What the snake-case form keeps of a name, and where it has underscores.

Without underscores the form is the name without separators, in small letters. Every underscore
parts the form into the forms of two parts of the name: either it stands for the separator between
them, or it was put where they meet, after a character and before a capital that are no separators.
So an underscore that was put in has no other one beside it.
-/

set_option autoImplicit false
set_option relaxedAutoImplicit false

namespace ProfileShell

namespace Text

theorem isCapital_underscore : isCapital '_' = false := by
  decide +kernel

theorem isSmall_underscore : isSmall '_' = false := by
  decide +kernel

theorem smallForm_underscore : smallForm '_' = ['_'] := by
  decide +kernel

theorem underscore_mem_smallForm_iff {c : Char} : '_' ∈ smallForm c ↔ c = '_' :=
  (mem_smallForm_iff_of_low (by decide) smallForm_underscore).trans eq_comm

end Text

namespace Profile

open Text (isCapital isSmall smallForm)

def isSeparator (c : Char) : Bool :=
  c == ' ' || c == '-' || c == '_'

theorem joinSeparator_eq_underscore_iff {c : Char} :
    joinSeparator c = '_' ↔ isSeparator c = true := by
  unfold joinSeparator isSeparator
  split <;> simp_all

theorem joinSeparator_of_other {c : Char} (other : isSeparator c = false) :
    joinSeparator c = c := by
  unfold isSeparator at other
  unfold joinSeparator
  simp_all

def form (cs : List Char) : List Char :=
  snakeFrom none (cs.map joinSeparator)

theorem toList_snakeCase (name : String) : (snakeCase name).toList = form name.toList :=
  String.toList_ofList

section Words

variable {previous next other : Option Char} {c : Char} {cs front back before after : List Char}

private theorem startsWord_underscore (previous next : Option Char) :
    startsWord previous '_' next = false := by
  cases previous <;> simp [startsWord, Text.isCapital_underscore]

private theorem startsWord_after_underscore (c : Char) (next : Option Char) :
    startsWord (some '_') c next = false := by
  simp [startsWord]

private theorem startsWord_congr (same : next.any isSmall = other.any isSmall) :
    startsWord previous c next = startsWord previous c other := by
  unfold startsWord
  rw [same]

theorem exists_of_startsWord (starts : startsWord previous c next = true) :
    isCapital c = true ∧ ∃ p, previous = some p ∧ p ≠ '_' := by
  unfold startsWord at starts
  cases previous with
  | none => cases starts
  | some p =>
    simp only [Bool.and_eq_true, bne_iff_ne] at starts
    exact ⟨starts.1.1, p, rfl, starts.1.2⟩

private theorem snakeFrom_after_underscore (cs : List Char) :
    snakeFrom (some '_') cs = snakeFrom none cs := by
  cases cs with
  | nil => rfl
  | cons c cs =>
    rw [snakeFrom, snakeFrom, startsWord_after_underscore]
    rfl

theorem snakeFrom_underscore (previous : Option Char) (cs : List Char) :
    snakeFrom previous ('_' :: cs) = '_' :: snakeFrom none cs := by
  rw [snakeFrom, startsWord_underscore, Text.smallForm_underscore, snakeFrom_after_underscore]
  rfl

private theorem startsWord_append (previous : Option Char) (c : Char) (front : List Char)
    (start : back.head?.any isSmall = false) :
    startsWord previous c (front ++ back).head? = startsWord previous c front.head? := by
  cases front with
  | nil => exact startsWord_congr start
  | cons d front => rfl

/-- An underscore parts a name into parts whose forms do not depend on each other. -/
private theorem snakeFrom_append_underscore (previous : Option Char) (front back : List Char) :
    snakeFrom previous (front ++ '_' :: back) =
      snakeFrom previous front ++ '_' :: snakeFrom none back := by
  induction front generalizing previous with
  | nil => exact snakeFrom_underscore previous back
  | cons c front ih =>
    have start : ('_' :: back).head?.any isSmall = false := Text.isSmall_underscore
    rw [List.cons_append, snakeFrom, snakeFrom, ih, startsWord_append previous c front start]
    simp only [List.append_assoc]

def Meets (previous : Option Char) (front back : List Char) : Prop :=
  ∃ p c, front.getLast?.or previous = some p ∧ p ≠ '_' ∧ back.head? = some c ∧ isCapital c = true

private theorem exists_of_append_eq {x : Char} {xs rest : List Char} (fresh : x ∉ xs)
    (same : xs ++ rest = before ++ x :: after) :
    ∃ inner, before = xs ++ inner ∧ rest = inner ++ x :: after := by
  rcases List.append_eq_append_iff.mp same with ⟨inner, front, back⟩ | ⟨inner, front, back⟩
  · exact ⟨inner, front, back⟩
  · cases inner with
    | nil => exact ⟨[], by simpa using front.symm, by simpa using back.symm⟩
    | cons d inner =>
      obtain ⟨rfl, -⟩ := List.cons.inj back
      exact absurd (front ▸ List.mem_append_right before List.mem_cons_self) fresh

private theorem Meets.start (meets : Meets previous front back) :
    back.head?.any isSmall = false := by
  obtain ⟨p, c, -, -, first, capital⟩ := meets
  rw [first, Option.any_some]
  exact Text.isSmall_of_isCapital capital

private theorem Meets.cons (meets : Meets (some c) front back) :
    Meets previous (c :: front) back := by
  obtain ⟨p, d, last, rest⟩ := meets
  refine ⟨p, d, ?_, rest⟩
  rw [← last, List.getLast?_cons]
  cases front.getLast? <;> rfl

def Parts (previous : Option Char) (cs before after : List Char) : Prop :=
  ∃ front back, before = snakeFrom previous front ∧ after = snakeFrom none back ∧
    (cs = front ++ '_' :: back ∨ cs = front ++ back ∧ Meets previous front back)

private theorem Parts.cons (parts : Parts (some c) cs before after) (previous : Option Char) :
    Parts previous (c :: cs)
      ((if startsWord previous c cs.head? then ['_'] else []) ++ smallForm c ++ before) after := by
  obtain ⟨front, back, rfl, rfl, whole⟩ := parts
  refine ⟨c :: front, back, ?_, rfl, ?_⟩
  · have start : startsWord previous c cs.head? = startsWord previous c front.head? := by
      rcases whole with rfl | ⟨rfl, meets⟩
      · exact startsWord_append previous c front Text.isSmall_underscore
      · exact startsWord_append previous c front meets.start
    rw [snakeFrom, start]
  · rcases whole with rfl | ⟨rfl, meets⟩
    · exact Or.inl rfl
    · exact Or.inr ⟨rfl, meets.cons⟩

private theorem parts_of_eq (out : snakeFrom previous cs = before ++ '_' :: after) :
    Parts previous cs before after := by
  induction cs generalizing previous before with
  | nil => simp [snakeFrom] at out
  | cons c cs ih =>
    by_cases separator : c = '_'
    · subst separator
      cases before with
      | nil =>
        rw [snakeFrom_underscore, List.nil_append, List.cons_inj_right] at out
        exact ⟨[], cs, rfl, out.symm, Or.inl rfl⟩
      | cons d inner =>
        rw [snakeFrom_underscore, ← snakeFrom_after_underscore, List.cons_append] at out
        obtain ⟨rfl, rest⟩ := List.cons.inj out
        have grown := (ih rest).cons previous
        rwa [startsWord_underscore, Text.smallForm_underscore] at grown
    · -- The small form of `c` holds no underscore, so there is one before it or one behind it.
      have fresh : '_' ∉ smallForm c := mt Text.underscore_mem_smallForm_iff.mp separator
      rw [snakeFrom, List.append_assoc] at out
      by_cases starts : startsWord previous c cs.head? = true
      · rw [if_pos starts] at out
        cases before with
        | nil =>
          have rest := List.tail_eq_of_cons_eq out
          obtain ⟨capital, p, rfl, other⟩ := exists_of_startsWord starts
          refine ⟨[], c :: cs, rfl, ?_, Or.inr ⟨rfl, p, c, rfl, other, rfl, capital⟩⟩
          rw [← rest]
          rfl
        | cons d before =>
          obtain ⟨rfl, rest⟩ := List.cons.inj out
          obtain ⟨inner, rfl, later⟩ := exists_of_append_eq fresh rest
          have grown := (ih later).cons previous
          rwa [if_pos starts] at grown
      · rw [if_neg starts, List.nil_append] at out
        obtain ⟨inner, rfl, later⟩ := exists_of_append_eq fresh out
        have grown := (ih later).cons previous
        rwa [if_neg starts] at grown

theorem filter_snakeFrom (previous : Option Char) (cs : List Char) :
    (snakeFrom previous cs).filter (· != '_') = (cs.filter (· != '_')).flatMap smallForm := by
  induction cs generalizing previous with
  | nil => rfl
  | cons c cs ih =>
    have lead : (if startsWord previous c cs.head? then ['_'] else []).filter (· != '_') = [] := by
      split <;> rfl
    rw [snakeFrom, List.filter_append, List.filter_append, lead, List.nil_append, ih]
    by_cases separator : c = '_'
    · subst separator
      rw [Text.smallForm_underscore]
      rfl
    · have kept : (smallForm c).filter (· != '_') = smallForm c := by
        rw [List.filter_eq_self]
        intro d member
        rw [bne_iff_ne]
        rintro rfl
        exact separator (Text.underscore_mem_smallForm_iff.mp member)
      have present : (c != '_') = true := bne_iff_ne.mpr separator
      rw [kept, List.filter_cons, if_pos present, List.flatMap_cons]

private theorem exists_snakeFrom_snoc (previous : Option Char) (cs : List Char) (c : Char) :
    ∃ start, snakeFrom previous (cs ++ [c]) = start ++ smallForm c := by
  induction cs generalizing previous with
  | nil => exact ⟨_, by rw [List.nil_append, snakeFrom, snakeFrom, List.append_nil]⟩
  | cons d cs ih =>
    obtain ⟨start, ends⟩ := ih (some d)
    exact ⟨_, by rw [List.cons_append, snakeFrom, ends, ← List.append_assoc]⟩

private theorem getLast?_snakeFrom_ne (previous : Option Char) (last : cs.getLast? = some c)
    (other : c ≠ '_') : ∃ d, (snakeFrom previous cs).getLast? = some d ∧ d ≠ '_' := by
  obtain ⟨front, rfl⟩ := List.getLast?_eq_some_iff.mp last
  obtain ⟨start, ends⟩ := exists_snakeFrom_snoc previous front c
  refine ⟨(smallForm c).getLast (Text.smallForm_ne_nil c), ?_, ?_⟩
  · rw [ends, List.getLast?_append, List.getLast?_eq_some_getLast (Text.smallForm_ne_nil c)]
    rfl
  · intro underscore
    have member := List.getLast_mem (Text.smallForm_ne_nil c)
    rw [underscore] at member
    exact other (Text.underscore_mem_smallForm_iff.mp member)

private theorem head?_snakeFrom_none_ne (first : cs.head? = some c) (other : c ≠ '_') :
    ∃ d, (snakeFrom none cs).head? = some d ∧ d ≠ '_' := by
  obtain ⟨rest, rfl⟩ := List.head?_eq_some_iff.mp first
  refine ⟨(smallForm c).head (Text.smallForm_ne_nil c), ?_, ?_⟩
  · change (smallForm c ++ snakeFrom (some c) rest).head? = _
    rw [List.head?_append, List.head?_eq_some_head (Text.smallForm_ne_nil c)]
    rfl
  · intro underscore
    have member := List.head_mem (Text.smallForm_ne_nil c)
    rw [underscore] at member
    exact other (Text.underscore_mem_smallForm_iff.mp member)

private theorem Meets.ends (meets : Meets none front back) :
    (∃ c, (snakeFrom none front).getLast? = some c ∧ c ≠ '_') ∧
      ∃ c, (snakeFrom none back).head? = some c ∧ c ≠ '_' := by
  obtain ⟨p, c, last, other, first, capital⟩ := meets
  rw [Option.or_none] at last
  have letter : c ≠ '_' := by
    rintro rfl
    rw [Text.isCapital_underscore] at capital
    cases capital
  exact ⟨getLast?_snakeFrom_ne none last other, head?_snakeFrom_none_ne first letter⟩

end Words

section Names

variable {name before after : String}

/-- An underscore parts a form. It stands for a separator of the name, or it was put between two
characters of the form that are no underscores. -/
inductive Parted (name before after : String) : Prop
  | separator (front : String) (s : Char) (back : String) (isOne : isSeparator s = true)
      (whole : name = front ++ String.singleton s ++ back) (before_eq : before = snakeCase front)
      (after_eq : after = snakeCase back)
  | inserted (front back : String) (whole : name = front ++ back)
      (before_eq : before = snakeCase front) (after_eq : after = snakeCase back)
      (behind : ∃ c, before.toList.getLast? = some c ∧ c ≠ '_')
      (ahead : ∃ c, after.toList.head? = some c ∧ c ≠ '_')

private theorem snakeCase_eq_of_form {cs : List Char} (same : name.toList = form cs) :
    name = snakeCase (String.ofList cs) := by
  rw [← String.toList_inj, toList_snakeCase, String.toList_ofList, same]

private theorem snakeCase_append_separator (front : String) {s : Char} (back : String)
    (separator : isSeparator s = true) :
    snakeCase (front ++ String.singleton s ++ back) =
      snakeCase front ++ "_" ++ snakeCase back := by
  have join := joinSeparator_eq_underscore_iff.mpr separator
  have parted : form (front.toList ++ s :: back.toList) =
      form front.toList ++ '_' :: form back.toList := by
    rw [form, List.map_append, List.map_cons, join, snakeFrom_append_underscore]
    rfl
  rw [← String.toList_inj]
  simpa [toList_snakeCase] using parted

private theorem parted_of_eq (out : snakeCase name = before ++ "_" ++ after) :
    Parted name before after := by
  have letters : snakeFrom none (name.toList.map joinSeparator) =
      before.toList ++ '_' :: after.toList := by
    have same := congrArg String.toList out
    rw [toList_snakeCase] at same
    simpa [form] using same
  obtain ⟨front, back, beforeIs, afterIs, whole | ⟨whole, meets⟩⟩ := parts_of_eq letters
  · obtain ⟨own, rest, split, rfl, joined⟩ := List.map_eq_append_iff.mp whole
    obtain ⟨s, others, rfl, separator, rfl⟩ := List.map_eq_cons_iff.mp joined
    refine .separator (String.ofList own) s (String.ofList others)
      (joinSeparator_eq_underscore_iff.mp separator) ?_ (snakeCase_eq_of_form beforeIs)
      (snakeCase_eq_of_form afterIs)
    rw [← String.toList_inj]
    simpa using split
  · obtain ⟨own, others, split, rfl, rfl⟩ := List.map_eq_append_iff.mp whole
    obtain ⟨behind, ahead⟩ := meets.ends
    rw [← beforeIs] at behind
    rw [← afterIs] at ahead
    refine .inserted (String.ofList own) (String.ofList others) ?_ (snakeCase_eq_of_form beforeIs)
      (snakeCase_eq_of_form afterIs) behind ahead
    rw [← String.toList_inj]
    simpa using split

private theorem filter_map_joinSeparator (cs : List Char) :
    (cs.map joinSeparator).filter (· != '_') = cs.filter fun c => !isSeparator c := by
  induction cs with
  | nil => rfl
  | cons c cs ih =>
    rw [List.map_cons, List.filter_cons, List.filter_cons, ih]
    cases separator : isSeparator c with
    | true =>
      rw [joinSeparator_eq_underscore_iff.mpr separator]
      rfl
    | false =>
      have other : (joinSeparator c != '_') = true := by
        rw [bne_iff_ne, ne_eq, joinSeparator_eq_underscore_iff, separator]
        exact Bool.false_ne_true
      rw [if_pos other, joinSeparator_of_other separator]
      rfl

private theorem filter_snakeCase (name : String) :
    (snakeCase name).toList.filter (· != '_') =
      (name.toList.filter fun c => !isSeparator c).flatMap smallForm := by
  rw [toList_snakeCase, form, filter_snakeFrom, filter_map_joinSeparator]

private theorem snakeCase_starts_iff :
    snakeCase name = "_" ++ after ↔
      ∃ s back, isSeparator s = true ∧ name = String.singleton s ++ back ∧
        after = snakeCase back := by
  constructor
  · intro out
    have parted : Parted name "" after := parted_of_eq (by rw [out, String.empty_append])
    cases parted with
    | separator front s back isOne whole nothing afterIs =>
      have start : front = "" := (snakeCase_eq_empty_iff front).mp nothing.symm
      rw [start, String.empty_append] at whole
      exact ⟨s, back, isOne, whole, afterIs⟩
    | inserted front back whole nothing afterIs behind ahead =>
      obtain ⟨c, last, -⟩ := behind
      cases last
  · rintro ⟨s, back, separator, rfl, rfl⟩
    have parted := snakeCase_append_separator "" back separator
    rw [String.empty_append] at parted
    rw [parted]
    rfl

private theorem snakeCase_ends_iff :
    snakeCase name = before ++ "_" ↔
      ∃ front s, isSeparator s = true ∧ name = front ++ String.singleton s ∧
        before = snakeCase front := by
  constructor
  · intro out
    have parted : Parted name before "" := parted_of_eq (by rw [out, String.append_empty])
    cases parted with
    | separator front s back isOne whole beforeIs nothing =>
      have stop : back = "" := (snakeCase_eq_empty_iff back).mp nothing.symm
      rw [stop, String.append_empty] at whole
      exact ⟨front, s, isOne, whole, beforeIs⟩
    | inserted front back whole beforeIs nothing behind ahead =>
      obtain ⟨c, first, -⟩ := ahead
      cases first
  · rintro ⟨front, s, separator, rfl, rfl⟩
    have parted := snakeCase_append_separator front "" separator
    rw [String.append_empty] at parted
    rw [parted]
    exact String.append_empty

private theorem snakeCase_doubles_iff :
    snakeCase name = before ++ "__" ++ after ↔
      ∃ front s t back, isSeparator s = true ∧ isSeparator t = true ∧
        name = front ++ String.singleton s ++ (String.singleton t ++ back) ∧
        before = snakeCase front ∧ after = snakeCase back := by
  have two : "__" = "_" ++ "_" := by decide
  constructor
  · intro out
    rw [two, ← String.append_assoc, String.append_assoc] at out
    cases parted_of_eq out with
    | separator front s back isOne whole beforeIs afterIs =>
      obtain ⟨t, rest, isOneToo, rfl, restIs⟩ := snakeCase_starts_iff.mp afterIs.symm
      exact ⟨front, s, t, rest, isOne, isOneToo, whole, beforeIs, restIs⟩
    | inserted front back whole beforeIs afterIs behind ahead =>
      obtain ⟨c, first, other⟩ := ahead
      rw [String.toList_append] at first
      exact absurd (Option.some.inj first).symm other
  · rintro ⟨front, s, t, back, separator, separatorToo, rfl, rfl, rfl⟩
    have inner : snakeCase (String.singleton t ++ back) = "_" ++ snakeCase back :=
      snakeCase_starts_iff.mpr ⟨t, back, separatorToo, rfl, rfl⟩
    rw [snakeCase_append_separator front _ separator, inner, two]
    simp only [String.append_assoc]

/-- Without its underscores the form of a name is the name without its separators in small letters,
character by character. Every separator stands as one underscore between the forms of the parts that
it parts, and any other underscore was put between two characters of the form that are no
underscores. So the form starts with an underscore, ends with one or has two side by side exactly
where the name does so with separators. -/
theorem snakeCase_lowers_and_separates (name : String) :
    (snakeCase name).toList.filter (· != '_') =
        (name.toList.filter fun c => !isSeparator c).flatMap Text.smallForm ∧
      (∀ front s back, isSeparator s = true → name = front ++ String.singleton s ++ back →
        snakeCase name = snakeCase front ++ "_" ++ snakeCase back) ∧
      (∀ before after, snakeCase name = before ++ "_" ++ after → Parted name before after) ∧
      (∀ after, snakeCase name = "_" ++ after ↔
        ∃ s back, isSeparator s = true ∧ name = String.singleton s ++ back ∧
          after = snakeCase back) ∧
      (∀ before, snakeCase name = before ++ "_" ↔
        ∃ front s, isSeparator s = true ∧ name = front ++ String.singleton s ∧
          before = snakeCase front) ∧
      ∀ before after, snakeCase name = before ++ "__" ++ after ↔
        ∃ front s t back, isSeparator s = true ∧ isSeparator t = true ∧
          name = front ++ String.singleton s ++ (String.singleton t ++ back) ∧
          before = snakeCase front ∧ after = snakeCase back := by
  refine ⟨filter_snakeCase name, ?_, fun _ _ => parted_of_eq, fun _ => snakeCase_starts_iff,
    fun _ => snakeCase_ends_iff, fun _ _ => snakeCase_doubles_iff⟩
  intro front s back separator whole
  rw [whole]
  exact snakeCase_append_separator front back separator

/-- A name with two separators side by side and a capital that starts a word behind them. -/
theorem snakeCase_lowers_and_separates_doubled :
    let name := "Ab -CDe"
    snakeCase name = "ab__c_de" ∧ isSeparator ' ' = true ∧ isSeparator '-' = true ∧
      name = "Ab" ++ String.singleton ' ' ++ "-CDe" ∧
      snakeCase name = snakeCase "Ab" ++ "_" ++ snakeCase "-CDe" ∧
      Parted name "ab__c" "de" ∧
      ∃ front s t back, isSeparator s = true ∧ isSeparator t = true ∧
        name = front ++ String.singleton s ++ (String.singleton t ++ back) ∧
        "ab" = snakeCase front ∧ "c_de" = snakeCase back := by
  intro name
  obtain ⟨-, parts, parted, -, -, doubles⟩ := snakeCase_lowers_and_separates name
  have written : snakeCase name = "ab__c_de" := by decide +kernel
  have whole : name = "Ab" ++ String.singleton ' ' ++ "-CDe" := by decide +kernel
  refine ⟨written, by decide, by decide, whole, parts "Ab" ' ' "-CDe" (by decide) whole, ?_, ?_⟩
  · exact parted "ab__c" "de" (written.trans (by decide +kernel))
  · exact (doubles "ab" "c_de").mp (written.trans (by decide +kernel))

end Names

end Profile

end ProfileShell
