import ProfileShell.Proofs.Command.Delivery
import ProfileShell.Proofs.Launcher.Effects

/-!
The lines that play, remove and rename a profile.

Whatever store the launcher works on, such a line calls the command that its first word names, with
the words that follow as arguments. The identifier of the profile is the second word, with a record
extension taken off. Where a profile is known by it, the command does on the store what it is for.
-/

set_option autoImplicit false
set_option relaxedAutoImplicit false

namespace ProfileShell

namespace Command

variable {C : Type}

theorem run_dispatch_of_task {r : Registry C} (sound : r.Sound) {text : String} {c : Command C}
    {args : Arguments} (called : call? r text = some (c, args)) {task : Arguments → Task C Reply}
    (does : c.handler = .ofTask task) (s : C) :
    (Action.run (dispatch r text) s).answer =
        (match ((task args).runOn s).answer with
          | .ok reply => reply
          | .error _ => .handlerFault c.name) ∧
      (Action.run (dispatch r text) s).state = ((task args).runOn s).state := by
  obtain ⟨answer, state⟩ := run_dispatch_of_call sound called s
  rw [answer, state, does, Handler.run_ofTask]
  refine ⟨?_, rfl⟩
  cases ((task args).runOn s).answer <;> rfl

end Command

namespace Arguments

variable {args : Arguments} {name : String}

private theorem text?_of_get? {text : String} (found : args.get? name = some (.text text)) :
    args.text? name = some text := by
  rw [text?, found]

private theorem boolean?_of_get? {b : Bool} (found : args.get? name = some (.boolean b)) :
    args.boolean? name = some b := by
  rw [boolean?, found]

end Arguments

namespace Launcher

open Command (call? words)
open ProfileShell.Task (Ensures)

variable {σ : Type}

theorem runOn_profileIdentifier {args : Arguments} {input : String}
    (given : args.text? "profile_id" = some input) (l : Launcher σ) :
    (profileIdentifier args).runOn l = ⟨.ok (stripExtension l.settings input), l, []⟩ := by
  unfold profileIdentifier
  rw [given]
  rfl

section Lines

variable [RecordStore σ] {r : Registry (Launcher σ)} {text typed : String}
variable (sound : r.Sound) (all : r.commands = commands)
include sound all

private theorem call_of_listed {i : Nat} {c : Command (Launcher σ)} (listed : commands[i]? = some c)
    {word : String} (named : Command.normalize word ∈ c.names) {values : List Value}
    (fits : Fits c.parameters values) (line : words text = word :: values.map Value.display) :
    ∃ args, call? r text = some (c, args) ∧
      ∀ name v, args.get? name = some v ↔ Arguments.Assigned c.parameters values name v := by
  refine Command.call?_of_fits sound ?_ named fits line
  rw [all]
  exact List.mem_of_getElem? listed

theorem call_rm (confirm : Option Bool)
    (line : words text = "rm" :: typed :: (confirm.map fun b => (Value.boolean b).display).toList) :
    ∃ c args, call? r text = some (c, args) ∧ c.handler = .ofTask removeCommand ∧
      args.text? "profile_id" = some typed ∧ args.boolean? "confirm" = confirm := by
  have fits : Fits [.needed "profile_id" .text, .optional "confirm" .boolean]
      (.text typed :: (confirm.map Value.boolean).toList) := by
    match confirm with
    | none => exact ⟨.cons ⟨typed, rfl⟩ .nil, by simp [Parameter.optional]⟩
    | some true => exact ⟨.cons ⟨typed, rfl⟩ (.cons ⟨"true", by decide +kernel⟩ .nil), by simp⟩
    | some false => exact ⟨.cons ⟨typed, rfl⟩ (.cons ⟨"false", by decide +kernel⟩ .nil), by simp⟩
  have texts : (Value.text typed :: (confirm.map Value.boolean).toList).map Value.display =
      typed :: (confirm.map fun b => (Value.boolean b).display).toList := by
    cases confirm <;> rfl
  obtain ⟨args, called, assigned⟩ := call_of_listed sound all (i := 3) rfl List.mem_cons_self fits
    (line.trans (congrArg _ texts.symm))
  refine ⟨_, args, called, rfl, ?_, ?_⟩
  · exact Arguments.text?_of_get? ((assigned "profile_id" _).mpr ⟨0, _, rfl, rfl, rfl⟩)
  · cases confirm with
    | some b => exact Arguments.boolean?_of_get? ((assigned "confirm" _).mpr ⟨1, _, rfl, rfl, rfl⟩)
    | none =>
      have unassigned : args.get? "confirm" = none := by
        rw [Option.eq_none_iff_forall_ne_some]
        intro v found
        obtain ⟨position, p, listed, named, value⟩ := (assigned "confirm" v).mp found
        match position, listed with
        | 0, rfl => exact absurd named (by decide)
        | 1, rfl => cases value
      rw [Arguments.boolean?, unassigned]

theorem call_run (line : words text = ["run", typed]) :
    ∃ c args, call? r text = some (c, args) ∧ c.handler = .ofTask runCommand ∧
      args.text? "profile_id" = some typed := by
  have fits : Fits [.needed "profile_id" .text] [.text typed] := ⟨.cons ⟨typed, rfl⟩ .nil, by simp⟩
  obtain ⟨args, called, assigned⟩ :=
    call_of_listed sound all (i := 2) rfl List.mem_cons_self fits line
  refine ⟨_, args, called, rfl, ?_⟩
  exact Arguments.text?_of_get? ((assigned "profile_id" _).mpr ⟨0, _, rfl, rfl, rfl⟩)

theorem call_mv {given : List String} (few : given.length ≤ 2)
    (line : words text = "mv" :: typed :: given) :
    ∃ c args, call? r text = some (c, args) ∧ c.handler = .ofTask renameCommand ∧
      args.text? "profile_id" = some typed ∧
      ∀ name newId, given = [name, newId] →
        args.text? "name" = some name ∧ args.text? "new_id" = some newId := by
  have fits : Fits [.needed "profile_id" .text, .optional "name" .text, .optional "new_id" .text]
      ((typed :: given).map Value.text) := by
    match given, few with
    | [], _ => exact ⟨.cons ⟨typed, rfl⟩ .nil, by simp [Parameter.optional]⟩
    | [a], _ => exact ⟨.cons ⟨typed, rfl⟩ (.cons ⟨a, rfl⟩ .nil), by simp [Parameter.optional]⟩
    | [a, b], _ => exact ⟨.cons ⟨typed, rfl⟩ (.cons ⟨a, rfl⟩ (.cons ⟨b, rfl⟩ .nil)), by simp⟩
  have texts : ((typed :: given).map Value.text).map Value.display = typed :: given := by
    rw [List.map_map]
    exact List.map_id _
  obtain ⟨args, called, assigned⟩ := call_of_listed sound all (i := 4) rfl List.mem_cons_self fits
    (line.trans (congrArg _ texts.symm))
  refine ⟨_, args, called, rfl, ?_, ?_⟩
  · exact Arguments.text?_of_get? ((assigned "profile_id" _).mpr ⟨0, _, rfl, rfl, rfl⟩)
  · rintro name newId rfl
    exact ⟨Arguments.text?_of_get? ((assigned "name" _).mpr ⟨1, _, rfl, rfl, rfl⟩),
      Arguments.text?_of_get? ((assigned "new_id" _).mpr ⟨2, _, rfl, rfl, rfl⟩)⟩

end Lines

section Commands

variable {l : Launcher σ} {args : Arguments} {typed id : String} {p : Profile}

private theorem confirmRemoval_of_saidYes (id : String) {l : Launcher σ} {after : Console}
    (yes : SaidYes l.host.console after) :
    (confirmRemoval id).Ensures l fun answer t => answer = .ok (some true) ∧ Talked l t := by
  obtain ⟨refused, text, pending, refusals, accepted⟩ := yes
  unfold confirmRemoval
  refine say_bind fun u said same => say_bind fun v again sameAgain => ?_
  have settled : Console.settle Console.judgeYesNo v.host.console.pending =
      (.ok (some true), after.pending) := by
    refine (Console.settle_eq_ok_some_iff Console.judgeYesNo _ _ true).mpr ⟨refused, text, ?_⟩
    exact ⟨(sameAgain.trans same).trans pending, refusals,
      (Console.judgeYesNo_eq_ok_true_iff text).mpr accepted⟩
  refine (ask_of_settle (Console.judges_pure Console.judgeYesNo v) settled).mono ?_
  rintro answer t ⟨talked, answered, -⟩
  exact ⟨answered, (said.trans again).trans talked⟩

variable [RecordStore σ]

/-- The text on a line is taken for an identifier that a profile is known by. -/
structure Knows (l : Launcher σ) (typed id : String) : Prop where
  named : stripExtension l.settings typed = id
  known : (isKnown id).runOn l = ⟨.ok true, l, []⟩

variable (knows : Knows l typed id) (given : args.text? "profile_id" = some typed)
include knows given

theorem knows_bind {α : Type} {f : String → Bool → Task (Launcher σ) α}
    {Q : Except Failure α → Launcher σ → Prop} (next : (f id true).Ensures l Q) :
    Ensures (profileIdentifier args >>= fun id => isKnown id >>= f id) l Q := by
  have named := runOn_profileIdentifier given l
  rw [knows.named] at named
  exact Ensures.step named (Ensures.step knows.known next)

theorem removeCommand_of_knows {P : Launcher σ → Prop}
    (agreed : ∃ after, Confirmed args l.host.console after)
    (removes : ∀ t, Talked l t → (onStore (Profile.remove id)).Ensures t fun answer u =>
      answer = .ok () ∧ P u) :
    (removeCommand args).Ensures l fun answer t =>
      answer = .ok ((Reply.succeededWith s!"Deleted profile '{id}'!").addText "profile_id" id) ∧
        P t := by
  unfold removeCommand
  refine knows_bind knows given ?_
  obtain ⟨console, byArgument | ⟨unsaid, yes⟩⟩ := agreed
  · rw [byArgument]
    refine Ensures.step (w := []) rfl ?_
    refine Ensures.bind_of_answer (removes l (Talked.refl l)) fun t gone => ?_
    exact Ensures.pure ⟨rfl, gone⟩
  · rw [unsaid]
    refine Ensures.bind_of_answer (confirmRemoval_of_saidYes id yes) fun t talked => ?_
    refine Ensures.bind_of_answer (removes t talked) fun u gone => ?_
    exact Ensures.pure ⟨rfl, gone⟩

theorem runCommand_of_knows
    (loads : (Task.attempt (onStore (Profile.load id))).Ensures l fun answer t =>
      answer = .ok (.ok p) ∧ t = l) :
    (runCommand args).Ensures l fun _ t =>
      t = ((onHost (Session.play l.settings p)).runOn l).state := by
  have played : (onHost (Session.play l.settings p)).Ensures l fun _ t =>
      t = ((onHost (Session.play l.settings p)).runOn l).state := rfl
  unfold runCommand
  refine knows_bind knows given ?_
  refine Ensures.bind_of_answer loads ?_
  rintro t rfl
  refine Ensures.step (w := []) rfl (Ensures.bind played ?_ ?_)
  · exact fun _ _ ended => Ensures.pure ended
  · exact fun _ _ ended => ended

theorem renameCommand_of_knows {name newId : String} {P : Launcher σ → Prop}
    (loads : (Task.attempt (onStore (Profile.load id))).Ensures l fun answer t =>
      answer = .ok (.ok p) ∧ t = l)
    (renamed : args.text? "name" = some name) (moved : args.text? "new_id" = some newId)
    (nonempty : Text.trim name ≠ "")
    (suggests : ∀ t, Talked l t → ∃ base,
      (onStore (Profile.suggestIdentifier (Text.trim name))).runOn t = ⟨.ok base, t, []⟩)
    (available : ∀ t, Talked l t →
      (identifierProblem (Text.trim newId) (some id)).runOn t = ⟨.ok none, t, []⟩)
    (renames : ∀ t, Talked l t →
      (Task.attempt (onStore (Profile.rename id (Text.trim newId) (Text.trim name)))).Ensures t
        fun _ u => P u) :
    (renameCommand args).Ensures l fun _ t => P t := by
  unfold renameCommand
  refine knows_bind knows given ?_
  refine Ensures.bind_of_answer loads ?_
  rintro t rfl
  refine say_bind fun u said _ => say_bind fun v again _ => ?_
  have talked := said.trans again
  rw [chooseName_given renamed nonempty, moved]
  refine Ensures.step (w := []) rfl ?_
  obtain ⟨base, suggested⟩ := suggests v talked
  refine Ensures.step suggested ?_
  have chosen : (chooseIdentifier (some newId) base (some id)).Ensures v fun answer w =>
      answer = .ok (.accepted (Text.trim newId)) ∧ w = v := by
    unfold chooseIdentifier
    exact Ensures.step (available v talked) (Ensures.pure ⟨rfl, rfl⟩)
  refine Ensures.bind_of_answer chosen ?_
  rintro w rfl
  refine Ensures.bind (renames w talked) ?_ fun _ _ ends => ends
  intro outcome x ends
  cases outcome with
  | ok q => exact Ensures.pure ends
  | error e => exact Ensures.step (w := [_]) rfl (Ensures.pure ends)

end Commands

end Launcher

end ProfileShell
