import Mathlib.Data.List.Forall2
import ProfileShell.Command.Dispatch
import ProfileShell.Proofs.Action.Agreement
import ProfileShell.Proofs.Command.Registration

/-!
Registries over different contexts whose commands correspond.

Commands correspond if they are called alike and their handlers agree. Registration treats such
commands alike, and dispatch answers a line alike, so what handlers do is all that can tell the
registries apart.
-/

set_option autoImplicit false
set_option relaxedAutoImplicit false

namespace ProfileShell

variable {C D : Type} {R : C → D → Prop} {Marked : LogRecord → Prop}

structure Command.AgreesUntil (Marked : LogRecord → Prop) (R : C → D → Prop) (c : Command C)
    (d : Command D) : Prop where
  name : c.name = d.name
  aliases : c.aliases = d.aliases
  summary : c.summary = d.summary
  parameters : c.parameters = d.parameters
  handler : ∀ args, Action.AgreesUntil Marked R (c.handler args) (d.handler args)

/-- Registries that find corresponding commands under the same names. -/
structure Registry.AgreesUntil (Marked : LogRecord → Prop) (R : C → D → Prop) (r : Registry C)
    (q : Registry D) : Prop where
  policy : r.policy = q.policy
  commands : List.Forall₂ (Command.AgreesUntil Marked R) r.commands q.commands
  index : r.index = q.index

abbrev Command.Agrees (R : C → D → Prop) (c : Command C) (d : Command D) : Prop :=
  Command.AgreesUntil (fun _ => False) R c d

abbrev Registry.Agrees (R : C → D → Prop) (r : Registry C) (q : Registry D) : Prop :=
  Registry.AgreesUntil (fun _ => False) R r q

theorem Handler.ofTask_agreesUntil {f : Arguments → Task C Reply} {g : Arguments → Task D Reply}
    (agree : ∀ args, Task.AgreesUntil Marked R (f args) (g args)) (args : Arguments) :
    Action.AgreesUntil Marked R (Handler.ofTask f args) (Handler.ofTask g args) := by
  unfold Handler.ofTask
  refine .bind (agree args) fun answer => ?_
  cases answer with
  | ok reply => exact .pure _
  | error failure => exact .pure _

namespace Command

theorem AgreesUntil.define {f : Handler C} {g : Handler D}
    (handler : ∀ args, Action.AgreesUntil Marked R (f args) (g args)) (name : String)
    (aliases : List String) (parameters : List Parameter) (summary : String) :
    AgreesUntil Marked R (.define name aliases parameters summary f)
      (.define name aliases parameters summary g) :=
  ⟨rfl, rfl, rfl, rfl, handler⟩

variable {c : Command C} {d : Command D}

private theorem AgreesUntil.names (agrees : AgreesUntil Marked R c d) : c.names = d.names := by
  simp only [Command.names, agrees.name, agrees.aliases]

private theorem AgreesUntil.usage (agrees : AgreesUntil Marked R c d) : c.usage = d.usage := by
  simp only [Command.usage, agrees.name, agrees.parameters]

private theorem AgreesUntil.signature (agrees : AgreesUntil Marked R c d) :
    c.signature = d.signature := by
  simp only [Command.signature, agrees.parameters]

private theorem AgreesUntil.fault (agrees : AgreesUntil Marked R c d) : c.fault = d.fault := by
  simp only [Command.fault, agrees.names, agrees.name, agrees.parameters]

private theorem AgreesUntil.description (agrees : AgreesUntil Marked R c d) :
    description c = description d := by
  unfold Command.description
  rw [agrees.name, agrees.usage, agrees.aliases, agrees.summary]

end Command

namespace Registry

variable {r : Registry C} {q : Registry D}

private theorem AgreesUntil.lookup (agrees : AgreesUntil Marked R r q) (name : String) :
    Option.Rel (Command.AgreesUntil Marked R) (r.lookup name) (q.lookup name) := by
  unfold Registry.lookup
  rw [agrees.index]
  cases q.index.get? (Command.normalize name) with
  | none => exact Option.Rel.none
  | some position =>
    simp only [Option.bind_some]
    rcases Nat.lt_or_ge position r.commands.length with inside | outside
    · have inside' : position < q.commands.length := agrees.commands.length_eq ▸ inside
      rw [List.getElem?_eq_getElem inside, List.getElem?_eq_getElem inside']
      exact Option.Rel.some (agrees.commands.get inside inside')
    · have outside' : q.commands.length ≤ position := agrees.commands.length_eq ▸ outside
      rw [List.getElem?_eq_none outside, List.getElem?_eq_none outside']
      exact Option.Rel.none

private theorem AgreesUntil.completions (agrees : AgreesUntil Marked R r q) (partialName : String) :
    r.completions partialName = q.completions partialName := by
  simp only [Registry.completions, agrees.index]

private theorem map_name_overlapping {cs : List (Command C)} {ds : List (Command D)}
    (agree : List.Forall₂ (Command.AgreesUntil Marked R) cs ds) {c : Command C} {d : Command D}
    (agrees : Command.AgreesUntil Marked R c d) :
    (cs.find? fun existing => existing.overlaps c).map Command.name =
      (ds.find? fun existing => existing.overlaps d).map Command.name := by
  induction agree with
  | nil => rfl
  | @cons e f _ _ first _ ih =>
    have same : e.overlaps c = f.overlaps d := by
      simp only [Command.overlaps, first.parameters, agrees.parameters]
    rw [List.find?_cons, List.find?_cons, same]
    cases f.overlaps d with
    | true => simp only [Option.map_some, first.name]
    | false => exact ih

private theorem overlapFault_eq (r : Registry C) (c : Command C) :
    r.overlapFault c =
      if r.policy = .reject then
        ((r.overlapping c).map Command.name).map fun existing =>
          .overlappingSignature c.name existing c.signature
      else none := by
  unfold overlapFault
  cases r.policy <;> cases r.overlapping c <;> rfl

private theorem AgreesUntil.fault (agrees : AgreesUntil Marked R r q) {c : Command C}
    {d : Command D} (commands : Command.AgreesUntil Marked R c d) : r.fault c = q.fault d := by
  have clash : (r.overlapping c).map Command.name = (q.overlapping d).map Command.name :=
    map_name_overlapping agrees.commands commands
  simp only [Registry.fault, commands.fault, nameFault_congr agrees.index, commands.names,
    overlapFault_eq, agrees.policy, clash, commands.name, commands.signature]

private theorem AgreesUntil.add (agrees : AgreesUntil Marked R r q) {c : Command C} {d : Command D}
    (commands : Command.AgreesUntil Marked R c d) : AgreesUntil Marked R (r.add c) (q.add d) where
  policy := agrees.policy
  commands := List.rel_append agrees.commands (List.Forall₂.cons commands List.Forall₂.nil)
  index := by
    simp only [Registry.add, commands.names, agrees.commands.length_eq, agrees.index]

theorem agreesUntil_new (policy : OverlapPolicy) :
    AgreesUntil Marked R (new policy : Registry C) (new policy) :=
  ⟨rfl, List.Forall₂.nil, rfl⟩

theorem registerAll_agrees {cs : List (Command C)} {ds : List (Command D)}
    (agree : List.Forall₂ (Command.AgreesUntil Marked R) cs ds) :
    Action.Agrees (AgreesUntil Marked R) (registerAll cs).run (registerAll ds).run := by
  induction agree with
  | nil => exact Action.Agrees.pure _
  | @cons c d cs ds commands _ ih =>
    intro r q agrees
    have same := agrees.fault commands
    have first : Action.AgreesAt (AgreesUntil Marked R) (register c).run (register d).run r q := by
      unfold Action.AgreesAt Action.run register
      dsimp only [ExceptT.run]
      rw [same]
      cases q.fault d with
      | some e => exact ⟨rfl, agrees⟩
      | none => exact ⟨rfl, agrees.add commands⟩
    refine first.bind ?_
    cases (Action.run (register c).run r).answer with
    | ok _ => exact ih _ _ first.2
    | error _ => exact ⟨rfl, first.2⟩

theorem build_bind_agreesUntil {γ δ β : Type} {S : γ → δ → Prop} {cs : List (Command C)}
    {ds : List (Command D)} (policy : OverlapPolicy)
    (agree : List.Forall₂ (Command.AgreesUntil Marked R) cs ds) {f : Registry C → Task γ β}
    {g : Registry D → Task δ β}
    (next : ∀ r q, AgreesUntil Marked R r q → Task.AgreesUntil Marked S (f r) (g q)) :
    Task.AgreesUntil Marked S (build policy cs >>= f) (build policy ds >>= g) := by
  intro s t related
  obtain ⟨same, agrees⟩ := registerAll_agrees agree _ _ (agreesUntil_new policy)
  change Action.AgreesUntilAt Marked S ((build policy cs).run >>= ExceptT.bindCont f)
    ((build policy ds).run >>= ExceptT.bindCont g) s t
  unfold Action.AgreesUntilAt Action.AgreesAt
  rw [Action.run_bind, Action.run_bind]
  change (ofCommands policy cs).answer = (ofCommands policy ds).answer at same
  change AgreesUntil Marked R (ofCommands policy cs).state (ofCommands policy ds).state at agrees
  unfold build Action.run
  dsimp only [ExceptT.run]
  rw [same]
  intro unmarked
  cases accepted : (ofCommands policy ds).answer with
  | ok _ =>
    rw [accepted] at unmarked
    exact next _ _ agrees s t related fun record member =>
      unmarked record (List.mem_append_right _ member)
  | error _ => exact ⟨rfl, related⟩

end Registry

namespace Command

variable {r : Registry C} {q : Registry D}

private theorem entries_eq {cs : List (Command C)} {ds : List (Command D)}
    (agree : List.Forall₂ (Command.AgreesUntil Marked R) cs ds) :
    (cs.map fun c => entryText c.usage c.summary) =
      ds.map fun d => entryText d.usage d.summary := by
  induction agree with
  | nil => rfl
  | cons first _ ih => simp only [List.map_cons, first.usage, first.summary, ih]

private theorem listing_agrees (agrees : Registry.AgreesUntil Marked R r q) :
    listing r = listing q := by
  unfold listing
  rw [entries_eq agrees.commands]

private theorem details_agrees (agrees : Registry.AgreesUntil Marked R r q) (name : String) :
    details r name = details q name := by
  unfold details
  have found := agrees.lookup name
  cases first : r.lookup name with
  | none =>
    cases second : q.lookup name with
    | none => rfl
    | some d => rw [first, second] at found; cases found
  | some c =>
    cases second : q.lookup name with
    | none => rw [first, second] at found; cases found
    | some d =>
      rw [first, second] at found
      obtain ⟨same⟩ := found
      simp only [Option.map_some, same.description]

private theorem helpReply_agrees (agrees : Registry.AgreesUntil Marked R r q)
    (tokens : List String) : helpReply r tokens = helpReply q tokens := by
  simp only [helpReply, listing_agrees agrees, details_agrees agrees]

private theorem unknownReply_agrees (agrees : Registry.AgreesUntil Marked R r q) (input : String) :
    unknownReply r input = unknownReply q input := by
  simp only [unknownReply, agrees.completions]

private theorem invoke_agreesUntil {c : Command C} {d : Command D}
    (commands : AgreesUntil Marked R c d)
    (args : Arguments) : Action.AgreesUntil Marked R (invoke c args) (invoke d args) := by
  unfold invoke
  rw [commands.name]
  refine .bind (commands.handler args) fun outcome => ?_
  cases outcome with
  | replied reply => exact .pure reply
  | failed failure =>
    exact .bind (.note _ _) fun _ => .pure _
  | panicked message =>
    exact .bind (.note _ _) fun _ => .pure _

private theorem bindAndInvoke_agreesUntil {c : Command C} {d : Command D}
    (commands : AgreesUntil Marked R c d) (tokens : List String) :
    Action.AgreesUntil Marked R (bindAndInvoke c tokens) (bindAndInvoke d tokens) := by
  unfold bindAndInvoke
  rw [commands.name, commands.parameters]
  cases Arguments.bind d.parameters tokens with
  | ok args =>
    exact .bind (.note _ _)
      fun _ => invoke_agreesUntil commands args
  | error e =>
    exact .bind (.note _ _)
      fun _ => .pure _

/-- Corresponding registries answer a line alike. -/
theorem dispatch_agreesUntil (agrees : Registry.AgreesUntil Marked R r q) (text : String) :
    Action.AgreesUntil Marked R (dispatch r text) (dispatch q text) := by
  unfold dispatch dispatchLine
  simp only [helpReply_agrees agrees, unknownReply_agrees agrees]
  split
  · exact .pure _
  · split
    · exact .pure _
    · split
      · exact .pure _
      · have found := agrees.lookup (normalize (Line.ofText text).command)
        revert found
        cases r.lookup (normalize (Line.ofText text).command) with
        | none =>
          cases q.lookup (normalize (Line.ofText text).command) with
          | none =>
            intro _
            exact .bind (.note _ _)
              fun _ => .pure _
          | some d => intro found; cases found
        | some c =>
          cases q.lookup (normalize (Line.ofText text).command) with
          | none => intro found; cases found
          | some d =>
            rintro ⟨commands⟩
            exact bindAndInvoke_agreesUntil commands _

theorem dispatch_agrees (agrees : Registry.Agrees R r q) (text : String) :
    Action.Agrees R (dispatch r text) (dispatch q text) :=
  (dispatch_agreesUntil agrees text).agrees

end Command

end ProfileShell
