import ProfileShell.Proofs.Launcher.Choices
import ProfileShell.Proofs.Record.DirectoryStore
import ProfileShell.Proofs.Record.Truthful

/-!
The questions of the launcher, over any store that can be looked into without a change.

The question for an identifier has the same test as an identifier that is given with a command: it
must be valid, and free or the one that may be kept. Only the question offers a suggestion, which a
blank answer takes; a blank identifier that is given is refused.
-/

set_option autoImplicit false
set_option relaxedAutoImplicit false

namespace ProfileShell

open ProfileShell.Task (Ensures)

namespace RecordStore

variable {σ : Type} [RecordStore σ]

def lookUp (s : σ) (id : String) : Except Failure Bool :=
  ((holds id : Task σ Bool).runOn s).answer

def Inspectable (s : σ) : Prop :=
  ∀ id, ((holds id : Task σ Bool).runOn s).state = s

end RecordStore

private theorem MemoryStore.inspectable (s : MemoryStore) : RecordStore.Inspectable s :=
  fun _ => rfl

theorem RefusingStore.inspectable (s : RefusingStore) : RecordStore.Inspectable s := by
  intro id
  have listed : (RecordStore.identifiers : Task RefusingStore (List String)).Ensures s
      fun _ t => t = s :=
    RefusingStore.guarded_ensures (fun _ => rfl) rfl
  have looked : (RecordStore.holds id : Task RefusingStore Bool).Ensures s fun _ t => t = s := by
    refine Ensures.bind listed ?_ ?_
    · rintro ids _ rfl
      exact Ensures.pure rfl
    · rintro e _ rfl
      rfl
  exact looked

theorem DirectoryStore.inspectable (s : DirectoryStore) : RecordStore.Inspectable s := by
  intro id
  cases valid : Record.isValidIdentifier id with
  | true => rw [runOn_holds valid]
  | false =>
    obtain ⟨fault, refused⟩ := Record.checkIdentifier_of_invalid valid
    rw [runOn_holds_of_refused refused]

namespace Launcher

open HasConsole (console withConsole)
open Console (Asked Criterion Follows Takes)
open RecordStore (Inspectable lookUp)

variable {σ : Type} [RecordStore σ] {l : Launcher σ}

/-- The identifiers that can be given to a profile, which may keep the identifier `current`. -/
def identifierTest (s : σ) (current : Option String) : Criterion String where
  accepts id chosen :=
    chosen = id ∧ Record.isValidIdentifier id = true ∧ (current = some id ∨ lookUp s id = .ok false)
  refuses id complaint :=
    (Record.isValidIdentifier id = false ∧ complaint = unusableIdentifier) ∨
      (Record.isValidIdentifier id = true ∧ current ≠ some id ∧ lookUp s id = .ok true ∧
        complaint = takenIdentifier)
  baffles id e := Record.isValidIdentifier id = true ∧ current ≠ some id ∧ lookUp s id = .error e
  exclusive := by
    rintro id _ complaint ⟨rfl, valid, usable⟩ (⟨invalid, -⟩ | ⟨-, other, taken, -⟩)
    · rw [valid] at invalid
      cases invalid
    · rcases usable with own | free
      · exact other own
      · rw [free] at taken
        cases taken

/-- The identifier that an answer stands for where one is suggested. -/
def answeredIdentifier (suggested answer : String) : String :=
  if Text.trim answer = "" then suggested else Text.trim answer

def IdentifierChoice.ofJudgement : Except String String → IdentifierChoice
  | .ok id => .accepted id
  | .error problem => .rejected problem

def IdentifierChoice.ofAnswer : Option String → IdentifierChoice
  | some id => .accepted id
  | none => .interrupted

private theorem onStore_holds (inspectable : Inspectable l.host.store) (id : String) :
    (onStore (RecordStore.holds id)).Ensures l fun known t =>
      known = lookUp l.host.store id ∧ t = l := by
  refine onStore_ensures ⟨rfl, ?_⟩
  rw [inspectable id]

private theorem identifierProblem_ensures (inspectable : Inspectable l.host.store) (id : String)
    (current : Option String) :
    (identifierProblem id current).Ensures l fun problem t =>
      t = l ∧ (identifierTest l.host.store current).Allows id
        (problem.map fun found => found.elim (.ok id) .error) := by
  unfold identifierProblem
  cases valid : Record.isValidIdentifier id with
  | false => exact Ensures.pure ⟨rfl, .refused (.inl ⟨valid, rfl⟩)⟩
  | true =>
    by_cases own : current = some id
    · simp only [own, Bool.not_true, Bool.false_eq_true, if_false, if_true]
      exact Ensures.pure ⟨rfl, .accepted ⟨rfl, valid, .inl rfl⟩⟩
    · simp only [own, Bool.not_true, Bool.false_eq_true, if_false]
      refine Ensures.bind (onStore_holds inspectable id) ?_ ?_
      · rintro known _ ⟨told, rfl⟩
        cases known with
        | true => exact Ensures.pure ⟨rfl, .refused (.inr ⟨valid, own, told.symm, rfl⟩)⟩
        | false => exact Ensures.pure ⟨rfl, .accepted ⟨rfl, valid, .inr told.symm⟩⟩
      · rintro e _ ⟨told, rfl⟩
        exact ⟨rfl, .baffled ⟨valid, own, told.symm⟩⟩

private theorem judgeIdentifier_follows (inspectable : Inspectable l.host.store)
    (suggested : String) (current : Option String) :
    Follows (judgeIdentifier suggested current)
      ((identifierTest l.host.store current).comap (answeredIdentifier suggested)) l := by
  intro answer c
  have inspectable : Inspectable (withConsole c l).host.store := inspectable
  unfold judgeIdentifier
  simp only [String.isEmpty_iff]
  change Ensures (identifierProblem (answeredIdentifier suggested answer) current >>= _) _ _
  refine Ensures.bind (identifierProblem_ensures inspectable _ current) ?_ ?_
  · rintro problem _ ⟨rfl, allowed⟩
    cases problem with
    | none =>
      cases allowed with
      | accepted accepts => exact Ensures.pure ⟨.accepted accepts, rfl⟩
    | some complaint =>
      cases allowed with
      | refused refuses => exact Ensures.pure ⟨.refused refuses, rfl⟩
  · rintro e _ ⟨rfl, allowed⟩
    cases allowed with
    | baffled baffles => exact ⟨.baffled baffles, rfl⟩

def identifierQuestion (suggested : String) : List Exchange :=
  [.say "Please enter the ID of the profile.",
    .say s!"Leave empty for auto-generated one: '{suggested}'"]

private theorem chooseIdentifier_asked (inspectable : Inspectable l.host.store) (suggested : String)
    (current : Option String) :
    (chooseIdentifier none suggested current).Ensures l fun choice t =>
      ∃ outcome d, choice = outcome.map IdentifierChoice.ofAnswer ∧ t = withConsole d l ∧
        Asked ((identifierTest l.host.store current).comap (answeredIdentifier suggested))
          ⟨(console l).pending, (console l).transcript ++ identifierQuestion suggested⟩
          outcome d := by
  unfold chooseIdentifier
  refine Ensures.step (Console.runOn_say _ l) (Ensures.step (Console.runOn_say _ _) ?_)
  have follows := (judgeIdentifier_follows inspectable suggested current).withConsole
    ⟨(console l).pending, (console l).transcript ++ identifierQuestion suggested⟩
  have questioned : withConsole ((console (withConsole ((console l).record
      (.say "Please enter the ID of the profile.")) l)).record
      (.say s!"Leave empty for auto-generated one: '{suggested}'"))
      (withConsole ((console l).record (.say "Please enter the ID of the profile.")) l) =
      withConsole ⟨(console l).pending, (console l).transcript ++ identifierQuestion suggested⟩
        l := by
    simp [LawfulConsole.console_withConsole, LawfulConsole.withConsole_withConsole,
      Console.record, identifierQuestion]
  rw [questioned]
  refine Ensures.bind (Console.ask_takes follows) ?_ ?_
  · rintro answer _ ⟨d, rfl, asked⟩
    rw [LawfulConsole.console_withConsole] at asked
    cases answer with
    | none => exact Ensures.pure ⟨_, d, rfl, LawfulConsole.withConsole_withConsole _ _ _, asked⟩
    | some id => exact Ensures.pure ⟨_, d, rfl, LawfulConsole.withConsole_withConsole _ _ _, asked⟩
  · rintro e _ ⟨d, rfl, asked⟩
    rw [LawfulConsole.console_withConsole] at asked
    exact ⟨_, d, rfl, LawfulConsole.withConsole_withConsole _ _ _, asked⟩

private theorem chooseIdentifier_given (inspectable : Inspectable l.host.store)
    (text suggested : String) (current : Option String) :
    (chooseIdentifier (some text) suggested current).Ensures l fun choice t =>
      t = l ∧ ∃ judgement,
        (identifierTest l.host.store current).Allows (Text.trim text) judgement ∧
        choice = judgement.map IdentifierChoice.ofJudgement := by
  unfold chooseIdentifier
  refine Ensures.bind (identifierProblem_ensures inspectable _ current) ?_ ?_
  · rintro problem _ ⟨rfl, allowed⟩
    cases problem with
    | none => exact Ensures.pure ⟨rfl, _, allowed, rfl⟩
    | some complaint => exact Ensures.pure ⟨rfl, _, allowed, rfl⟩
  · rintro e _ ⟨rfl, allowed⟩
    exact ⟨rfl, _, allowed, rfl⟩

private theorem chooseIdentifier_blank (text suggested : String) (current : Option String)
    (blank : Text.trim text = "") :
    (chooseIdentifier (some text) suggested current).runOn l =
      ⟨.ok (.rejected unusableIdentifier), l, []⟩ := by
  have invalid : Record.isValidIdentifier "" = false := by decide
  unfold chooseIdentifier identifierProblem
  simp only [blank, invalid]
  rfl

/-- The questions of the launcher take the first answer that will do and nothing after it, with one
complaint for each answer before that one; an identifier that is given with a command is put to the
same test as one that is typed, without a question. Nothing but the console changes. -/
theorem questions_take_first_answer {C : Type} [HasConsole C] [LawfulConsole C] (s : C)
    (l : Launcher σ) (inspectable : Inspectable l.host.store) (suggested : String)
    (current : Option String) :
    Takes Console.askNonblank Console.nonblank s ∧
      Takes Console.askYesNo Console.yesOrNo s ∧
      ((chooseIdentifier none suggested current).Ensures l fun choice t =>
        ∃ outcome d, choice = outcome.map IdentifierChoice.ofAnswer ∧ t = withConsole d l ∧
          Asked ((identifierTest l.host.store current).comap (answeredIdentifier suggested))
            ⟨(console l).pending, (console l).transcript ++ identifierQuestion suggested⟩
            outcome d) ∧
      ∀ text,
        ((chooseIdentifier (some text) suggested current).Ensures l fun choice t =>
          t = l ∧ ∃ judgement,
            (identifierTest l.host.store current).Allows (Text.trim text) judgement ∧
            choice = judgement.map IdentifierChoice.ofJudgement) ∧
        (Text.trim text = "" →
          (chooseIdentifier (some text) suggested current).runOn l =
            ⟨.ok (.rejected unusableIdentifier), l, []⟩) :=
  ⟨Console.askNonblank_takes s, Console.askYesNo_takes s,
    chooseIdentifier_asked inspectable suggested current,
    fun text => ⟨chooseIdentifier_given inspectable text suggested current,
      chooseIdentifier_blank text suggested current⟩⟩

def besideHero : Launcher MemoryStore :=
  ⟨⟨⟨.ofList [("hero", "\x7b\x7d")]⟩,
    .ofInput [.line " hero ", .line "../x", .line "  ", .line "late"], .regular 0 0⟩, .standard⟩

theorem questions_take_first_answer_besideHero :
    Inspectable besideHero.host.store ∧
      ∃ d, (chooseIdentifier none "hero_1" none).runOn besideHero =
          ⟨.ok (.accepted "hero_1"), withConsole d besideHero, []⟩ ∧
        Asked ((identifierTest besideHero.host.store none).comap (answeredIdentifier "hero_1"))
          ⟨besideHero.host.console.pending, identifierQuestion "hero_1"⟩
          (.ok (some "hero_1")) d ∧
        d = ⟨[.line "late"], identifierQuestion "hero_1" ++
          [.read ":> ", .say takenIdentifier, .read ":> ", .say unusableIdentifier,
            .read ":> "]⟩ := by
  have inspectable := MemoryStore.inspectable besideHero.host.store
  have ran : (chooseIdentifier none "hero_1" none).runOn besideHero =
      ⟨.ok (.accepted "hero_1"), withConsole ⟨[.line "late"], identifierQuestion "hero_1" ++
        [.read ":> ", .say takenIdentifier, .read ":> ", .say unusableIdentifier,
          .read ":> "]⟩ besideHero, []⟩ := by
    rfl
  obtain ⟨outcome, d, chosen, same, asked⟩ :=
    (questions_take_first_answer (Console.ofInput []) besideHero inspectable "hero_1" none).2.2.1
  rw [ran] at chosen same
  have left : console (withConsole d besideHero) = d := rfl
  rw [← same] at left
  obtain rfl : _ = d := left
  obtain rfl : outcome = .ok (some "hero_1") := by
    cases outcome with
    | error e => cases chosen
    | ok answer =>
      cases answer with
      | none => cases chosen
      | some id =>
        cases chosen
        rfl
  exact ⟨inspectable, _, ran, asked, rfl⟩

end Launcher

end ProfileShell
