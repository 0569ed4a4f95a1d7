import ProfileShell.Proofs.Binding
import ProfileShell.Proofs.Command.Invocation
import ProfileShell.Proofs.Command.Spelling

/-!
How a line hands values over to a command.

In double quotes, with a backslash before every double quote and every backslash, any text is one
word of a line. The texts of values that fit the parameters of a command are read as those values,
so that a line of the command's name and these texts calls the command with them.
-/

set_option autoImplicit false
set_option relaxedAutoImplicit false

namespace ProfileShell

namespace Command

def escape (c : Char) : List Char :=
  if c = '"' ∨ c = '\\' then ['\\', c] else [c]

def inQuotes (text : String) : List Char :=
  '"' :: (text.toList.flatMap escape ++ ['"'])

/-- The line of some texts, each in double quotes, with a space between them. -/
def lineOf (texts : List String) : String :=
  String.ofList ([' '].intercalate (texts.map inQuotes))

section Words

private def inDoubleQuotes (text : String) : Spelling :=
  ⟨text, .quoted .double, nofun⟩

private def space : Gap :=
  ⟨⟨' ', by decide⟩, []⟩

private theorem chars_inDoubleQuotes (text : String) :
    (inDoubleQuotes text).chars = inQuotes text := rfl

private theorem intercalate_inQuotes (texts : List String) :
    [' '].intercalate (texts.map inQuotes) =
      spelledChars (fun _ => space) (texts.map inDoubleQuotes) := by
  induction texts with
  | nil => rfl
  | cons text texts ih =>
    cases texts with
    | nil => simp [spelledChars, chars_inDoubleQuotes]
    | cons next texts =>
      have gap : space.blanks.map Subtype.val = [' '] := rfl
      simp only [List.map_cons, List.intercalate_cons_cons, spelledChars, chars_inDoubleQuotes,
        gap] at ih ⊢
      rw [ih, List.append_assoc]

theorem words_lineOf (texts : List String) : words (lineOf texts) = texts := by
  have spelled : lineOf texts =
      spelledLine [] (fun _ => space) (texts.map inDoubleQuotes) [] := by
    simp [lineOf, spelledLine, intercalate_inQuotes]
  rw [spelled, words_spelledLine, List.map_map]
  exact List.map_id texts

end Words

end Command

/-- Values for the first parameters, where the others may be omitted. -/
structure Fits (parameters : List Parameter) (values : List Value) : Prop where
  given : List.Forall₂ (fun p v => ∃ token, p.type.coerce token = some v)
    (parameters.take values.length) values
  omitted : ∀ p ∈ parameters.drop values.length, p.required = false

namespace Fits

variable {ps : List Parameter} {values : List Value}

private theorem length_le (fits : Fits ps values) : values.length ≤ ps.length := by
  have lengths := fits.given.length_eq
  rw [List.length_take] at lengths
  omega

private theorem coerce_display (fits : Fits ps values) {i : Nat} {p : Parameter} {v : Value}
    (declared : ps[i]? = some p) (given : values[i]? = some v) :
    p.type.coerce v.display = some v := by
  obtain ⟨inside, rfl⟩ := List.getElem?_eq_some_iff.mp given
  obtain ⟨within, rfl⟩ := List.getElem?_eq_some_iff.mp declared
  have taken : i < (ps.take values.length).length := by
    rw [List.length_take]
    omega
  obtain ⟨token, coerced⟩ := fits.given.get taken inside
  rw [List.get_eq_getElem, List.getElem_take] at coerced
  exact ValueType.coerce_display (ValueType.yields_of_coerce coerced)

private theorem optional (fits : Fits ps values) {i : Nat} {p : Parameter}
    (declared : ps[i]? = some p) (missing : values[i]? = none) : p.required = false := by
  refine fits.omitted p (List.mem_iff_getElem?.mpr ⟨i - values.length, ?_⟩)
  rw [List.getElem?_drop, Nat.add_sub_cancel' (List.getElem?_eq_none_iff.mp missing)]
  exact declared

private theorem admits (fits : Fits ps values) {i : Nat} {p : Parameter}
    (declared : ps[i]? = some p) : p.Admits (values.map Value.display)[i]? := by
  rw [List.getElem?_map]
  cases given : values[i]? with
  | none => exact fits.optional declared given
  | some v => exact ⟨v, fits.coerce_display declared given⟩

private theorem valueOf (fits : Fits ps values) {i : Nat} {p : Parameter}
    (declared : ps[i]? = some p) :
    p.valueOf (values.map Value.display)[i]? = values[i]?.or p.fallback := by
  rw [List.getElem?_map]
  cases given : values[i]? with
  | none => rfl
  | some v => exact fits.coerce_display declared given

end Fits

namespace Arguments

/-- The name is that of a parameter which has the value, or no value and this fallback. -/
def Assigned (parameters : List Parameter) (values : List Value) (name : String) (v : Value) :
    Prop :=
  ∃ (position : Nat) (p : Parameter), parameters[position]? = some p ∧ p.name = name ∧
    values[position]?.or p.fallback = some v

private theorem bind_display {ps : List Parameter} {values : List Value} (fits : Fits ps values)
    (distinct : (ps.map Parameter.name).Nodup) :
    ∃ args, bind ps (values.map Value.display) = .ok args ∧
      ∀ name v, args.get? name = some v ↔ Assigned ps values name v := by
  have few : (values.map Value.display).length ≤ ps.length := by
    rw [List.length_map]
    exact fits.length_le
  obtain ⟨args, bound⟩ := (exists_bind_iff distinct).mpr ⟨few, fun _ _ => fits.admits⟩
  refine ⟨args, bound, fun name v => ?_⟩
  rw [(binds_of_bind distinct bound).get?_eq_some_iff, Assigned]
  refine exists_congr fun i => exists_congr fun p => and_congr_right fun declared => ?_
  rw [fits.valueOf declared]

end Arguments

namespace Command

variable {C : Type}

/-- A line of a command's name and the texts of values that fit calls the command, with the
arguments that the values and the fallbacks assign. -/
theorem call?_of_fits {r : Registry C} (sound : r.Sound) {c : Command C}
    (registered : c ∈ r.commands) {word : String} (named : normalize word ∈ c.names)
    {values : List Value} (fits : Fits c.parameters values) {text : String}
    (line : words text = word :: values.map Value.display) :
    ∃ args, call? r text = some (c, args) ∧
      ∀ name v, args.get? name = some v ↔ Arguments.Assigned c.parameters values name v := by
  obtain ⟨args, bound, assigned⟩ :=
    Arguments.bind_display fits (sound.legal c registered).distinct
  refine ⟨args, ?_, assigned⟩
  rw [call?_eq_some_iff_of_sound sound]
  exact ⟨word, values.map Value.display, line, registered, named, bound⟩

/-- Whatever values a registered command may be given, the line of one of its names and their
texts, all in double quotes, calls the command once, and with the arguments that the values and the
fallbacks assign. -/
theorem dispatch_delivers_values {r : Registry C} (reachable : r.Reachable) {c : Command C}
    (registered : c ∈ r.commands) {word : String} (named : normalize word ∈ c.names)
    {values : List Value} (fits : Fits c.parameters values) :
    (∀ p ∈ c.parameters, ∀ v, (∃ token, p.type.coerce token = some v) ↔ p.type.Yields v) ∧
      ∃ args : Arguments,
        (∀ name v, args.get? name = some v ↔ Arguments.Assigned c.parameters values name v) ∧
        ∀ s calls,
          let line := lineOf (word :: values.map Value.display)
          (Action.run (dispatch r line) s).answer =
              replyOf c (Action.run (c.handler args) s).answer ∧
            (Action.run (dispatch r line) s).state = (Action.run (c.handler args) s).state ∧
            (Action.run (dispatch r.traced line) ⟨s, calls⟩).state =
              ⟨(Action.run (c.handler args) s).state, calls ++ [(c, args)]⟩ := by
  have sound := reachable.sound
  refine ⟨fun p _ v => (ValueType.yields_iff p.type v).symm, ?_⟩
  obtain ⟨args, called, assigned⟩ :=
    call?_of_fits sound registered named fits (words_lineOf (word :: values.map Value.display))
  refine ⟨args, assigned, ?_⟩
  intro s calls
  obtain ⟨answered, left⟩ := run_dispatch_of_call sound called s
  refine ⟨answered, left, ?_⟩
  have traced : call? r.traced (lineOf (word :: values.map Value.display)) =
      some (c.traced, args) := by
    rw [call?_traced, called]
    rfl
  rw [(run_dispatch_of_call sound.traced traced ⟨s, calls⟩).2, run_traced_handler]

def addNoted : Command Tally :=
  .define " Add" ["PLUS"]
    [.needed "amount" .integer, .optional "mode" (.choice ["Fast", "fast"]),
      ⟨"note", .text, false, some (.text "")⟩] "" (Tally.handler (.add "amount"))

theorem dispatch_delivers_values_addNoted :
    let r := (Action.run (Registry.attemptAll [addNoted]) (.new .reject)).state
    r.Reachable ∧ addNoted ∈ r.commands ∧ normalize "Plus " ∈ addNoted.names ∧
      Fits addNoted.parameters [.integer (-7), .text "Fast"] ∧
      (Action.run (dispatch r (lineOf ["Plus ", "-7", "Fast"])) Tally.zero).state = ⟨1, -7⟩ := by
  intro r
  have reachable : r.Reachable :=
    ⟨.reject, [addNoted], by simp [addNoted, isDefined_define], rfl⟩
  have accepted : (Registry.new .reject).fault addNoted = none := by decide +kernel
  have registered : addNoted ∈ r.commands := by
    have commands : r.commands = [addNoted] := by
      change (Action.run (Registry.attemptAll [addNoted]) (.new .reject)).state.commands = _
      simp only [Registry.attemptAll, Action.run_bind, Registry.run_register, accepted]
      rfl
    rw [commands]
    exact List.mem_singleton_self addNoted
  have named : normalize "Plus " ∈ addNoted.names := by decide +kernel
  have fits : Fits addNoted.parameters [.integer (-7), .text "Fast"] := by
    refine ⟨.cons ⟨"-7", by decide +kernel⟩ (.cons ⟨"FAST", by decide +kernel⟩ .nil), ?_⟩
    decide
  obtain ⟨-, args, assigned, runs⟩ := dispatch_delivers_values reachable registered named fits
  have amount : args.get? "amount" = some (.integer (-7)) :=
    (assigned "amount" (.integer (-7))).mpr ⟨0, _, rfl, rfl, rfl⟩
  refine ⟨reachable, registered, named, fits, ?_⟩
  have left := (runs Tally.zero []).2.1
  have texts : [.integer (-7), .text "Fast"].map Value.display = ["-7", "Fast"] := by
    decide +kernel
  rw [texts] at left
  rw [left]
  change Tally.mk 1 (0 + (args.integer? "amount").getD 0) = ⟨1, -7⟩
  rw [Arguments.integer?, amount]
  rfl

end Command

end ProfileShell
