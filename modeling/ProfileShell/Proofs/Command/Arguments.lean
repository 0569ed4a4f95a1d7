import ProfileShell.Proofs.Binding
import ProfileShell.Proofs.Command.Invocation

/-!
The arguments that handlers are called with.

They agree with the parameters of their command: the check of fallbacks on registration and the
reading of tokens on a call leave only values that the declared types accept. The two differ on the
words of a choice. A token is bound in the declared spelling, and a fallback as it was given, which
may differ from the declared spelling in the case of its letters.
-/

set_option autoImplicit false
set_option relaxedAutoImplicit false

namespace ProfileShell

namespace Arguments

def Answers (args : Arguments) (name : String) : ValueType → Prop
  | .integer => ∃ i, args.integer? name = some i
  | .number => ∃ x, args.number? name = some x
  | .text => ∃ s, args.text? name = some s
  | .boolean => ∃ b, args.boolean? name = some b
  | .choice _ => ∃ s, args.text? name = some s

private theorem answers_of_accepts {args : Arguments} {name : String} {type : ValueType} {v : Value}
    (found : args.get? name = some v) (accepted : type.accepts v = true) :
    args.Answers name type := by
  -- Of the pairs of a type and a value, those of one kind are accepted.
  cases type <;> cases v <;> try exact absurd accepted Bool.false_ne_true
  case integer.integer i => exact ⟨i, by rw [integer?, found]⟩
  case number.number x => exact ⟨x, by rw [number?, found]⟩
  case text.text s => exact ⟨s, by rw [text?, found]⟩
  case boolean.boolean b => exact ⟨b, by rw [boolean?, found]⟩
  case choice.text words s => exact ⟨s, by rw [text?, found]⟩

/-- Arguments that agree with parameters, of which the first ones were given tokens. -/
structure WellTyped (parameters : List Parameter) (given : Nat) (args : Arguments) : Prop where
  named : ∀ name, args.get? name ≠ none → ∃ p ∈ parameters, p.name = name
  accepted : ∀ p ∈ parameters, ∀ v, args.get? p.name = some v → p.type.accepts v = true
  required : ∀ p ∈ parameters, p.required = true → args.Answers p.name p.type
  filled : ∀ p ∈ parameters, p.fallback ≠ none → args.get? p.name ≠ none
  bare : ∀ (i : Nat) p, parameters[i]? = some p → p.required = false → p.fallback = none →
    (args.get? p.name ≠ none ↔ i < given)

section Binding

variable {ps : List Parameter} {tokens : List String} {args : Arguments} {p : Parameter}

private theorem valueOf_accepted (legal : Command.AreLegal ps) (member : p ∈ ps)
    {token : Option String}
    {v : Value} (taken : p.valueOf token = some v) : p.type.accepts v = true := by
  cases token with
  | none => exact legal.fallbacks p member v taken
  | some token => exact ValueType.accepts_of_yields (ValueType.yields_of_coerce taken)

private theorem valueOf_ne_none_of_admits {token : Option String} (admitted : p.Admits token)
    (has : token ≠ none ∨ p.required = true ∨ p.fallback ≠ none) : p.valueOf token ≠ none := by
  cases token with
  | none =>
    have optional : p.required = false := admitted
    have fallback : p.fallback ≠ none := by simpa [optional] using has
    exact fallback
  | some token =>
    obtain ⟨v, coerced⟩ := admitted
    show p.type.coerce token ≠ none
    rw [coerced]
    exact Option.some_ne_none v

private theorem wellTyped_of_bind (legal : Command.AreLegal ps)
    (bound : bind ps tokens = .ok args) : args.WellTyped ps tokens.length := by
  have binds := binds_of_bind legal.distinct bound
  have admits := ((exists_bind_iff legal.distinct).mp ⟨args, bound⟩).2
  have accepted : ∀ p ∈ ps, ∀ v, args.get? p.name = some v → p.type.accepts v = true := by
    intro p member v found
    obtain ⟨i, declared⟩ := List.mem_iff_getElem?.mp member
    rw [binds.value i p declared] at found
    exact valueOf_accepted legal member found
  have present : ∀ p ∈ ps, p.required = true ∨ p.fallback ≠ none → args.get? p.name ≠ none := by
    intro p member has
    obtain ⟨i, declared⟩ := List.mem_iff_getElem?.mp member
    rw [binds.value i p declared]
    exact valueOf_ne_none_of_admits (admits i p declared) (Or.inr has)
  refine ⟨binds.named, accepted, ?_, fun p member has => present p member (Or.inr has), ?_⟩
  · intro p member required
    obtain ⟨v, found⟩ := Option.ne_none_iff_exists'.mp (present p member (Or.inl required))
    exact answers_of_accepts found (accepted p member v found)
  · intro i p declared optional noFallback
    rw [binds.value i p declared]
    constructor
    · intro has
      by_contra few
      rw [List.getElem?_eq_none_iff.mpr (by omega)] at has
      exact has noFallback
    · intro given
      apply valueOf_ne_none_of_admits (admits i p declared)
      left
      simp [given]

/-- The word that a choice parameter takes: for a token the first declared word that the token
matches, and without one the fallback as it stands. -/
structure Chosen (options : List String) (p : Parameter) (token : Option String)
    (word : String) : Prop where
  matching : ∃ option ∈ options, Text.sameIgnoringCase option word = true
  typed : ∀ t, token = some t →
    (options.find? fun option => Text.sameIgnoringCase option t) = some word
  omitted : token = none → p.fallback = some (.text word)
  declared_iff :
    word ∈ options ↔ token ≠ none ∨ ∃ option ∈ options, p.fallback = some (.text option)

private theorem chosen_of_valueOf (legal : Command.AreLegal ps) (member : p ∈ ps)
    {options : List String} (choice : p.type = .choice options) {token : Option String} {v : Value}
    (taken : p.valueOf token = some v) :
    ∃ word, v = .text word ∧ Chosen options p token word := by
  have accepted := valueOf_accepted legal member taken
  rw [choice, ValueType.accepts_choice_iff] at accepted
  obtain ⟨word, rfl, matching⟩ := accepted
  refine ⟨word, rfl, ?_⟩
  cases token with
  | none =>
    have fallback : p.fallback = some (.text word) := taken
    exact {
      matching
      typed := fun t impossible => by cases impossible
      omitted := fun _ => fallback
      declared_iff := by simp [fallback] }
  | some t =>
    have coerced : p.type.coerce t = some (.text word) := taken
    rw [choice] at coerced
    obtain ⟨option, found, same⟩ := Option.map_eq_some_iff.mp coerced
    cases same
    have spelled : word ∈ options := List.mem_of_find?_eq_some found
    exact {
      matching
      typed := fun _ same => Option.some.inj same ▸ found
      omitted := fun impossible => by cases impossible
      declared_iff := by simp [spelled] }

end Binding

end Arguments

namespace Command

variable {C : Type}

private theorem mem_calls_iff {r : Registry C} (sound : r.Sound) (text : String) (s : C)
    (c : Command C) (args : Arguments) :
    (c, args) ∈ (Action.run (dispatch r.traced text) ⟨s, []⟩).state.calls ↔
      ∃ word tokens, words text = word :: tokens ∧ c ∈ r.commands ∧ normalize word ∈ c.names ∧
        Arguments.bind c.parameters tokens = .ok args := by
  rw [calls_dispatch sound, List.nil_append, Option.mem_toList]
  exact call?_eq_some_iff_of_sound sound text c args

/-- Whatever line calls a handler, it calls it with arguments that agree with the parameters of its
command: every name is that of a parameter, every value is legal for the type of its parameter, what
is required or has a fallback is there, and an argument that has neither is there exactly if the
line has a token at its position. -/
theorem handlers_see_wellTyped_arguments {r : Registry C} (reachable : r.Reachable) (text : String)
    (s : C) {c : Command C} {args : Arguments}
    (called : (c, args) ∈ (Action.run (dispatch r.traced text) ⟨s, []⟩).state.calls) :
    ∃ word tokens, words text = word :: tokens ∧ c ∈ r.commands ∧ normalize word ∈ c.names ∧
      args.WellTyped c.parameters tokens.length := by
  have sound := reachable.sound
  obtain ⟨word, tokens, line, registered, named, bound⟩ :=
    (mem_calls_iff sound text s c args).mp called
  have legal := sound.legal c registered
  exact ⟨word, tokens, line, registered, named, Arguments.wellTyped_of_bind legal bound⟩

/-- The word that a handler finds under a choice parameter is one that a declared word matches. It
is itself declared exactly if the line has a token at the position of the parameter, or if the
fallback is declared, since a fallback is handed over as it stands. -/
theorem handlers_see_chosen_words {r : Registry C} (reachable : r.Reachable) (text : String)
    (s : C) {c : Command C} {args : Arguments}
    (called : (c, args) ∈ (Action.run (dispatch r.traced text) ⟨s, []⟩).state.calls)
    {i : Nat} {p : Parameter} (declared : c.parameters[i]? = some p) {options : List String}
    (choice : p.type = .choice options) {v : Value} (found : args.get? p.name = some v) :
    ∃ word tokens, words text = word :: tokens ∧
      ∃ chosen, v = .text chosen ∧ Arguments.Chosen options p tokens[i]? chosen := by
  have sound := reachable.sound
  obtain ⟨word, tokens, line, registered, -, bound⟩ :=
    (mem_calls_iff sound text s c args).mp called
  have legal := sound.legal c registered
  have binds := Arguments.binds_of_bind legal.distinct bound
  rw [binds.value i p declared] at found
  have member : p ∈ c.parameters := List.mem_of_getElem? declared
  exact ⟨word, tokens, line, Arguments.chosen_of_valueOf legal member choice found⟩

private theorem called_singleton {c : Command C} (defined : c.IsDefined)
    (faultless : (Registry.new .reject : Registry C).fault c = none) (text : String) (s : C)
    {word : String} {tokens : List String} {args : Arguments} (line : words text = word :: tokens)
    (named : normalize word ∈ c.names) (bound : Arguments.bind c.parameters tokens = .ok args) :
    let r := (Action.run (Registry.attemptAll [c]) (.new .reject)).state
    r.Reachable ∧ (c, args) ∈ (Action.run (dispatch r.traced text) ⟨s, []⟩).state.calls := by
  intro r
  have reachable : r.Reachable := ⟨.reject, [c], by simpa using defined, rfl⟩
  have registered : c ∈ r.commands := Registry.mem_attemptAll_singleton faultless
  refine ⟨reachable, (mem_calls_iff reachable.sound text s c args).mpr ?_⟩
  exact ⟨word, tokens, line, registered, named, bound⟩

def give : Command Tally :=
  .define "give" []
    [.needed "amount" .integer, .optional "note" .text,
      ⟨"loud", .boolean, false, some (.boolean false)⟩] "" (Tally.handler (.add "amount"))

theorem handlers_see_wellTyped_arguments_give :
    let r := (Action.run (Registry.attemptAll [give]) (.new .reject)).state
    let run := Action.run (dispatch r.traced "give 5 thanks") ⟨Tally.zero, []⟩
    ∃ args : Arguments,
      r.Reachable ∧ (give, args) ∈ run.state.calls ∧
        args.WellTyped give.parameters 2 ∧ args.text? "note" = some "thanks" := by
  intro r run
  have line : words "give 5 thanks" = ["give", "5", "thanks"] := by decide +kernel
  obtain ⟨args, bound, note⟩ : ∃ args, Arguments.bind give.parameters ["5", "thanks"] = .ok args ∧
      args.text? "note" = some "thanks" := ⟨_, rfl, by decide +kernel⟩
  obtain ⟨reachable, called⟩ := called_singleton (isDefined_define ..) (by decide +kernel)
    "give 5 thanks" Tally.zero line (by decide +kernel) bound
  refine ⟨args, reachable, called, ?_, note⟩
  obtain ⟨word, tokens, split, -, -, typed⟩ :=
    handlers_see_wellTyped_arguments reachable "give 5 thanks" Tally.zero called
  rw [line] at split
  cases split
  exact typed

/-- A command that sets a level; the level it has without a token is not in declared spelling. -/
def mode : Command Tally :=
  .define "mode" [] [⟨"level", .choice ["Easy", "Hard"], false, some (.text "hard")⟩] ""
    (Tally.handler .echo)

theorem handlers_see_chosen_words_mode :
    let r := (Action.run (Registry.attemptAll [mode]) (.new .reject)).state
    let args : Arguments := TextMap.empty.insert "level" (.text "Hard")
    r.Reachable ∧
      (mode, args) ∈ (Action.run (dispatch r.traced "mode HARD") ⟨Tally.zero, []⟩).state.calls ∧
      ∃ word, args.text? "level" = some word ∧ word ∈ ["Easy", "Hard"] := by
  intro r args
  have line : words "mode HARD" = ["mode", "HARD"] := by decide +kernel
  have bound : Arguments.bind mode.parameters ["HARD"] = .ok args := rfl
  obtain ⟨reachable, called⟩ := called_singleton (isDefined_define ..) (by decide +kernel)
    "mode HARD" Tally.zero line (by decide +kernel) bound
  refine ⟨reachable, called, ?_⟩
  obtain ⟨word, tokens, split, chosen, value, words⟩ :=
    handlers_see_chosen_words reachable "mode HARD" Tally.zero called (i := 0) rfl rfl
      (v := .text "Hard") rfl
  rw [line] at split
  cases split
  cases value
  exact ⟨"Hard", rfl, words.declared_iff.mpr (Or.inl (by simp))⟩

/-- A line without a token hands the fallback over in a spelling that is not declared. -/
theorem mode_hands_over_undeclared_word :
    let r := (Action.run (Registry.attemptAll [mode]) (.new .reject)).state
    let args : Arguments := TextMap.empty.insert "level" (.text "hard")
    r.Reachable ∧
      (mode, args) ∈ (Action.run (dispatch r.traced "mode") ⟨Tally.zero, []⟩).state.calls ∧
      args.get? "level" = some (.text "hard") ∧ "hard" ∉ ["Easy", "Hard"] := by
  intro r args
  have line : words "mode" = ["mode"] := by decide +kernel
  have bound : Arguments.bind mode.parameters [] = .ok args := rfl
  obtain ⟨reachable, called⟩ := called_singleton (isDefined_define ..) (by decide +kernel)
    "mode" Tally.zero line (by decide +kernel) bound
  exact ⟨reachable, called, rfl, by decide⟩

end Command

end ProfileShell
