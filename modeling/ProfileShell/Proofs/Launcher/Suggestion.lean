import ProfileShell.Proofs.Launcher.Effects
import ProfileShell.Proofs.Profile.Naming
import ProfileShell.Proofs.TextMap

/-!
What the identifier that is suggested for a name is good for.

A suggestion is never taken. It is valid exactly if the name itself could be an identifier: snake
case and numbering leave the dot in front and the characters that no identifier holds where they
are. Only then can a profile be created under it, and only then does a blank answer create one.
-/

set_option autoImplicit false
set_option relaxedAutoImplicit false

namespace ProfileShell

open ProfileShell.Task (Ensures)

namespace Profile

variable (s : MemoryStore) (name : String)

@[simp] theorem suggestion_trim : suggestion s (Text.trim name) = suggestion s name := by
  unfold suggestion
  rw [Text.trim_trim]

private theorem get?_suggestion : s.records.get? (suggestion s name) = none := by
  obtain ⟨n, free, -, allocated⟩ :=
    Record.exists_allocate_eq (snakeCase (Text.trim name)) s.records.keys
  unfold suggestion
  rw [allocated]
  cases found : s.records.get? (Record.candidate (snakeCase (Text.trim name)) n) with
  | none => rfl
  | some text => exact absurd (TextMap.mem_keys_of_get? found) free

variable {name}

private theorem isValidIdentifier_suggestion (nonblank : Text.trim name ≠ "") :
    Record.isValidIdentifier (suggestion s name) =
      Record.isValidIdentifier (Text.trim name) := by
  obtain ⟨n, -, -, allocated⟩ :=
    Record.exists_allocate_eq (snakeCase (Text.trim name)) s.records.keys
  have nonempty : snakeCase (Text.trim name) ≠ "" := mt (snakeCase_eq_empty_iff _).mp nonblank
  unfold suggestion
  rw [allocated, Record.isValidIdentifier_candidate nonempty, isValidIdentifier_snakeCase]

private theorem create_suggestion_iff (given : String) :
    (∃ p, ((create (suggestion s name) given : Task MemoryStore Profile).runOn s).answer = .ok p) ↔
      Record.isValidIdentifier (suggestion s name) = true := by
  constructor
  · rintro ⟨p, created⟩
    rcases create_ensures s (suggestion s name) given with ⟨-, valid, -, -⟩ | ⟨⟨e, refused⟩, -⟩
    · exact valid
    · rw [refused] at created
      cases created
  · intro valid
    exact ⟨_, (create_of_free s valid (get?_suggestion s name) given).1⟩

end Profile

namespace Launcher

open Command (call? words)

/-- The name that a new profile is given: by the command, or by the first answer that is not blank.
The input `rest` comes after it. -/
inductive Named (args : Arguments) (pending : List Input) : String → List Input → Prop
  | argument {name : String} (given : args.text? "name" = some name)
      (nonblank : Text.trim name ≠ "") : Named args pending name pending
  | answer {refused : List String} {name : String} {rest : List Input}
      (unnamed : Text.trim ((args.text? "name").getD "") = "")
      (typed : pending = refused.map Input.line ++ .line name :: rest)
      (blank : ∀ text ∈ refused, Text.trim text = "") (nonblank : Text.trim name ≠ "") :
      Named args pending name rest

/-- The line calls `new` for a name and without an identifier, and the answer to the question for
the identifier is blank. The input `rest` comes after it. -/
inductive AcceptsSuggestion (policy : OverlapPolicy) (l : Launcher MemoryStore)
    (text name : String) (rest : List Input) : Prop
  | intro {c : Command (Launcher MemoryStore)} {args : Arguments} {blank : String}
      (called : call? (registry policy) text = some (c, args)) (isNew : c.name = "new")
      (unidentified : args.text? "id" = none)
      (named : Named args l.host.console.pending name (.line blank :: rest))
      (nothing : Text.trim blank = "")

structure CreatedAtOnce (l : Launcher MemoryStore) (id name : String) (rest : List Input)
    (reply : Reply) (t : Launcher MemoryStore) : Prop where
  succeeded : reply.kind = "success"
  reported : reply.get? "profile_id" = some (.text id)
  records : t.records = l.records.insert id (Profile.new id name).toText
  pending : t.host.console.pending = rest

section Commands

variable {args : Arguments} {l : Launcher MemoryStore} {name suggested blank : String}
variable {rest : List Input}

private theorem chooseName_of_named (named : Named args l.host.console.pending name rest)
    (question : String) :
    (chooseName args question).Ensures l fun answer t =>
      Talked l t ∧ answer = .ok (some (Text.trim name)) ∧ t.host.console.pending = rest := by
  cases named with
  | argument given nonblank =>
    rw [chooseName_given given nonblank]
    exact Ensures.pure ⟨Talked.refl l, rfl, rfl⟩
  | @answer refused _ _ unnamed typed blank nonblank =>
    have settled : Console.settle Console.judgeNonblank l.host.console.pending =
        (.ok (some (Text.trim name)), rest) := by
      refine (Console.settle_eq_ok_some_iff _ _ _ _).mpr ⟨refused, name, typed, ?_, ?_⟩
      · intro text member
        refine ⟨Console.invalidAnswer, ?_⟩
        simp [Console.judgeNonblank, blank text member]
      · simp [Console.judgeNonblank, nonblank]
    unfold chooseName
    rw [unnamed]
    refine say_bind fun t said same => ?_
    rw [← same] at settled
    refine (ask_of_settle (Console.judges_pure Console.judgeNonblank t) settled).mono ?_
    rintro answer u ⟨talked, chosen⟩
    exact ⟨said.trans talked, chosen⟩

private theorem chooseIdentifier_of_blank (available : Available l.records none suggested)
    (pending : l.host.console.pending = .line blank :: rest) (nothing : Text.trim blank = "") :
    (chooseIdentifier none suggested none).Ensures l fun answer t =>
      Talked l t ∧ answer = .ok (.accepted suggested) ∧ t.host.console.pending = rest := by
  unfold chooseIdentifier
  refine say_bind fun t said same => say_bind fun u again sameAgain => ?_
  have talked := said.trans again
  have settled : Console.settle (verdictWith u.records suggested none) u.host.console.pending =
      (.ok (some suggested), rest) := by
    have unproblematic : problemWith u.records none suggested = none := by
      rw [problemWith_eq_none_iff, talked.records]
      exact available
    have taken : verdictWith u.records suggested none blank = .ok suggested := by
      unfold verdictWith
      simp only [nothing, String.isEmpty_iff, if_true, unproblematic]
    rw [sameAgain, same, pending]
    simp only [Console.settle, taken]
  refine Ensures.bind (ask_of_settle (judgeIdentifier_judges suggested none u) settled) ?_ ?_
  · rintro _ v ⟨more, ⟨⟩, left⟩
    exact Ensures.pure ⟨talked.trans more, rfl, left⟩
  · rintro e v ⟨-, ⟨⟩, -⟩

private theorem newCommand_of_blank (unidentified : args.text? "id" = none)
    (named : Named args l.host.console.pending name (.line blank :: rest))
    (nothing : Text.trim blank = "")
    (valid : Record.isValidIdentifier (Profile.suggestion l.host.store name) = true) :
    (newCommand args).Ensures l fun answer t => ∃ reply, answer = .ok reply ∧
      CreatedAtOnce l (Profile.suggestion l.host.store name) (Text.trim name) rest reply t := by
  have free := Profile.get?_suggestion l.host.store name
  unfold newCommand
  refine Ensures.bind (chooseName_of_named named _) ?_ ?_
  · rintro _ t ⟨talked, ⟨⟩, pending⟩
    refine Ensures.step (runOn_suggestIdentifier t _) ?_
    rw [unidentified, Profile.suggestion_trim, talked.store]
    generalize Profile.suggestion l.host.store name = id at valid free
    have available : Available t.records none id := ⟨valid, Or.inr (talked.records ▸ free)⟩
    refine Ensures.bind (chooseIdentifier_of_blank available pending nothing) ?_ ?_
    · rintro _ u ⟨more, ⟨⟩, left⟩
      have same := (talked.trans more).store
      have created : (Task.attempt (onStore (Profile.create id (Text.trim name)))).Ensures u
          fun answer v => answer = .ok (.ok (Profile.new id (Text.trim name))) ∧
            v.records = l.records.insert id (Profile.new id (Text.trim name)).toText ∧
            v.host.console.pending = rest := by
        rw [← same] at free
        refine Ensures.attempt (onStore_ensures
          ((Profile.create_of_free u.host.store valid free (Text.trim name)).mono ?_))
        rintro _ _ ⟨rfl, rfl⟩
        rw [same]
        exact ⟨rfl, rfl, left⟩
      refine Ensures.bind created ?_ ?_
      · rintro _ v ⟨⟨⟩, records, pending⟩
        refine Ensures.pure ⟨_, rfl, ?_, ?_, records, pending⟩
        · rw [Reply.kind_addText, Reply.kind_succeededWith]
        · rw [Reply.addText, Reply.get?_add _ (by decide), if_pos rfl]
      · rintro e v ⟨⟨⟩, -⟩
    · rintro e u ⟨-, ⟨⟩, -⟩
  · rintro e t ⟨-, ⟨⟩, -⟩

end Commands

private theorem handler_of_name_new {policy : OverlapPolicy} {c : Command (Launcher MemoryStore)}
    (member : c ∈ (registry policy).commands) (name : c.name = "new") :
    c.handler = .ofTask newCommand := by
  rw [commands_registry] at member
  simp only [commands, List.mem_cons, List.not_mem_nil, or_false] at member
  rcases member with rfl | rfl | rfl | rfl | rfl
  · exact absurd name (by decide +kernel)
  · exact Command.handler_define ..
  · exact absurd name (by decide +kernel)
  · exact absurd name (by decide +kernel)
  · exact absurd name (by decide +kernel)

/-- The identifier that is suggested for a name that is not blank is never taken. A profile can be
created under it, and a blank answer to the question for the identifier creates the profile at once,
exactly if the name could be an identifier itself. -/
theorem suggestion_usable_iff (s : MemoryStore) (name : String)
    (nonblank : ∃ c ∈ name.toList, Text.isBlank c = false) :
    ∃ id, (Profile.suggestIdentifier name).runOn s = ⟨.ok id, s, []⟩ ∧
      s.records.get? id = none ∧
      ((∃ p, ((Profile.create id name).runOn s).answer = .ok p) ↔
        Record.isValidIdentifier (Text.trim name) = true) ∧
      ∀ policy l text rest, l.host.store = s → AcceptsSuggestion policy l text name rest →
        let run := Action.run (Command.dispatch (registry policy) text) l
        (CreatedAtOnce l id (Text.trim name) rest run.answer run.state ↔
          Record.isValidIdentifier (Text.trim name) = true) := by
  have nonempty : Text.trim name ≠ "" := by
    obtain ⟨c, member, visible⟩ := nonblank
    intro empty
    rw [(Text.trim_eq_empty_iff name).mp empty c member] at visible
    cases visible
  have validity := Profile.isValidIdentifier_suggestion s nonempty
  have free := Profile.get?_suggestion s name
  refine ⟨_, Profile.runOn_suggestIdentifier s name, free, ?_, ?_⟩
  · rw [← validity]
    exact Profile.create_suggestion_iff s name
  · rintro policy l text rest rfl ⟨called, isNew, unidentified, named, nothing⟩
    obtain ⟨-, -, -, member, -, -⟩ :=
      (Command.call?_eq_some_iff_of_sound (sound_registry policy) text _ _).mp called
    have does := handler_of_name_new member isNew
    rw [← validity]
    constructor
    · intro created
      have ends := run_dispatch_of_task called does l (newCommand_ensures _ l)
      obtain ⟨id, chosen, effect⟩ := (if_pos created.succeeded).mp ends
      rw [effect.eq_of_insert free created.records]
      exact effect.valid
    · intro valid
      obtain ⟨reply, replied, created⟩ := newCommand_of_blank unidentified named nothing valid
      rw [answer_dispatch_of_task called does l replied, state_dispatch_of_task called does]
      exact created

def beforeBlankAnswer (records : TextMap String) : Launcher MemoryStore :=
  ⟨⟨⟨records⟩, .ofInput [.line ""], .regular 1700000000000 0⟩, .standard⟩

private theorem call?_new (line name : String) (split : words line = ["new", name]) :
    ∃ c, call? (registry .reject) line =
      some (c, TextMap.empty.insert "name" (.text name)) ∧ c.name = "new" := by
  refine ⟨_, (Command.call?_eq_some_iff_of_sound (sound_registry .reject) line _ _).mpr
    ⟨"new", [name], split, mem_registry .reject (i := 1) rfl, ?_, rfl⟩, ?_⟩
  all_goals decide +kernel

/-- A name whose suggestion is numbered, since its snake-case form is taken. -/
theorem suggestion_usable_iff_myHero :
    let l := beforeBlankAnswer
      (TextMap.empty.insert "my_hero" (Profile.new "my_hero" "My Hero").toText)
    let run := Action.run (Command.dispatch (registry .reject) "new 'My Hero'") l
    (∃ p, ((Profile.create "my_hero_1" "My Hero").runOn l.host.store).answer = .ok p) ∧
      CreatedAtOnce l "my_hero_1" "My Hero" [] run.answer run.state := by
  intro l run
  obtain ⟨c, called, isNew⟩ := call?_new "new 'My Hero'" "My Hero" (by decide +kernel)
  have named : Named (TextMap.empty.insert "name" (.text "My Hero")) l.host.console.pending
      "My Hero" [.line ""] :=
    .argument rfl (by decide +kernel)
  have accepts : AcceptsSuggestion .reject l "new 'My Hero'" "My Hero" [] :=
    .intro called isNew rfl named (by decide +kernel)
  obtain ⟨id, suggested, -, creates, createsAtOnce⟩ :=
    suggestion_usable_iff l.host.store "My Hero" ⟨'M', by decide, by decide⟩
  obtain rfl : "my_hero_1" = id := by
    have answered : ((Profile.suggestIdentifier "My Hero").runOn l.host.store).answer =
        .ok "my_hero_1" := by
      decide +kernel
    rw [suggested] at answered
    exact (Except.ok.inj answered).symm
  have valid : Record.isValidIdentifier (Text.trim "My Hero") = true := by decide +kernel
  exact ⟨creates.mpr valid, (createsAtOnce .reject l _ [] rfl accepts).mpr valid⟩

/-- A name with a slash keeps it in snake case, and what is suggested for it is refused. -/
theorem suggestion_with_slash_is_refused :
    let l := beforeBlankAnswer .empty
    let run := Action.run (Command.dispatch (registry .reject) "new AC/DC") l
    (∃ c ∈ "AC/DC".toList, Text.isBlank c = false) ∧
      ((Profile.suggestIdentifier "AC/DC").runOn l.host.store).answer = .ok "ac/dc" ∧
      ((Profile.create "ac/dc" "AC/DC").runOn l.host.store).answer =
        .error (.store (.invalidIdentifier "ac/dc")) ∧
      .say "Leave empty for auto-generated one: 'ac/dc'" ∈ run.state.host.console.transcript ∧
      .say unusableIdentifier ∈ run.state.host.console.transcript ∧
      run.answer.kind = "interrupted" ∧ run.state.records = .empty := by
  refine ⟨⟨'A', by decide, by decide⟩, by rfl, by rfl, ?_⟩
  decide +kernel

end Launcher

end ProfileShell
