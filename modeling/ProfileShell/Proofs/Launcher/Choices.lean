import ProfileShell.Launcher
import ProfileShell.Proofs.Console.Answers
import ProfileShell.Proofs.Profile.Workflow
import ProfileShell.Proofs.Session
import ProfileShell.Proofs.Text.Trimming

/-!
What the launcher comes to when it chooses a name or an identifier or asks for a confirmation.

The choices talk on the console and look at the store; they change nothing but the console. A chosen
name is trimmed and not empty; a chosen identifier is valid and free, or the one that may be kept.
-/

set_option autoImplicit false
set_option relaxedAutoImplicit false

namespace ProfileShell

instance {σ : Type} : LawfulConsole (Launcher σ) where
  console_withConsole _ _ := rfl
  withConsole_withConsole _ _ _ := rfl
  withConsole_console _ := rfl

namespace Console

private theorem judgeNonblank_eq_ok {answer text : String}
    (judged : judgeNonblank answer = .ok text) : text ≠ "" ∧ Text.trim text = text := by
  unfold judgeNonblank at judged
  simp only at judged
  split at judged
  · cases judged
  · rename_i nonempty
    cases judged
    exact ⟨fun empty => nonempty (String.isEmpty_iff.mpr empty), Text.trim_trim answer⟩

theorem judgeYesNo_eq_ok_true_iff (answer : String) :
    judgeYesNo answer = .ok true ↔ Text.lowerAscii (Text.trim answer) ∈ ["y", "yes"] := by
  unfold judgeYesNo
  simp only [List.mem_cons, List.not_mem_nil, or_false]
  split
  · rename_i yes
    simp [yes]
  · rename_i other
    split <;> simp [other]

end Console

namespace Launcher

open ProfileShell.Task (Ensures)
open HasConsole (withConsole)
open Console (Judges)

section Talking

variable {σ : Type}

def Talked (l t : Launcher σ) : Prop :=
  ∃ c, t = withConsole c l

theorem Talked.refl (l : Launcher σ) : Talked l l :=
  ⟨l.host.console, rfl⟩

theorem Talked.trans {l t u : Launcher σ} (first : Talked l t) (second : Talked t u) :
    Talked l u := by
  obtain ⟨c, rfl⟩ := first
  obtain ⟨d, rfl⟩ := second
  exact ⟨d, rfl⟩

theorem Talked.store {l t : Launcher σ} (talked : Talked l t) : t.host.store = l.host.store := by
  obtain ⟨c, rfl⟩ := talked
  rfl

/-- The task changes nothing but the console, and its answers have a property. -/
def Talks {α : Type} (x : Task (Launcher σ) α) (l : Launcher σ)
    (P : α → Launcher σ → Prop) : Prop :=
  x.Ensures l fun answer t => Talked l t ∧ ∀ a, answer = .ok a → P a t

theorem Talks.bind {α β : Type} {P : α → Launcher σ → Prop} {x : Task (Launcher σ) α}
    {f : α → Task (Launcher σ) β} {l : Launcher σ} {Q : Except Failure β → Launcher σ → Prop}
    (first : Talks x l P) (second : ∀ a t, Talked l t → P a t → (f a).Ensures t Q)
    (failed : ∀ e t, Talked l t → Q (.error e) t) : Ensures (x >>= f) l Q := by
  refine Ensures.bind first ?_ ?_
  · rintro a t ⟨talked, found⟩
    exact second a t talked (found a rfl)
  · rintro e t ⟨talked, -⟩
    exact failed e t talked

private theorem Talks.pure {α : Type} {P : α → Launcher σ → Prop} {a : α} {l : Launcher σ}
    (found : P a l) : Talks (Pure.pure a) l P := by
  refine Ensures.pure ⟨Talked.refl l, ?_⟩
  rintro _ ⟨⟩
  exact found

private theorem Talks.after {α : Type} {P : α → Launcher σ → Prop} {x : Task (Launcher σ) α}
    {l t : Launcher σ} (talked : Talked l t) (talks : Talks x t P) :
    x.Ensures t fun answer u => Talked l u ∧ ∀ a, answer = .ok a → P a u :=
  talks.mono fun _ _ found => ⟨talked.trans found.1, found.2⟩

theorem onStore_ensures [RecordStore σ] {α : Type} {x : Task σ α} {l : Launcher σ}
    {Q : Except Failure α → Launcher σ → Prop}
    (ensures : x.Ensures l.host.store fun answer s =>
      Q answer { l with host := { l.host with store := s } }) : (onStore x).Ensures l Q := by
  unfold onStore onHost Host.onStore
  exact Ensures.within (Ensures.within ensures)

theorem onStore_talks [RecordStore σ] {α : Type} {P : α → Prop} {x : Task σ α} {l : Launcher σ}
    (looks : x.Ensures l.host.store fun answer s =>
      s = l.host.store ∧ ∀ a, answer = .ok a → P a) :
    Talks (onStore x) l fun a _ => P a := by
  refine onStore_ensures (looks.mono ?_)
  rintro answer _ ⟨rfl, found⟩
  exact ⟨Talked.refl l, found⟩

private theorem ask_talks {α : Type} {P : α → Prop}
    {judge : String → Task (Launcher σ) (Except String α)}
    {verdict : String → Except String α} {l : Launcher σ} (judges : Judges judge verdict l)
    (found : ∀ answer value, verdict answer = .ok value → P value) :
    Talks (Console.ask judge) l fun chosen _ => ∀ value, chosen = some value → P value := by
  refine (Console.ask_settles judges).mono ?_
  rintro answer t ⟨c, rfl, settled⟩
  refine ⟨⟨c, rfl⟩, ?_⟩
  rintro chosen rfl value rfl
  obtain ⟨-, text, -, -, accepted⟩ :=
    (Console.settle_eq_ok_some_iff verdict _ c.pending value).mp settled.symm
  exact found text value accepted

theorem ask_of_settle {α : Type} {judge : String → Task (Launcher σ) (Except String α)}
    {verdict : String → Except String α} {l : Launcher σ} {value : α} {rest : List Input}
    (judges : Judges judge verdict l)
    (settled : Console.settle verdict l.host.console.pending = (.ok (some value), rest)) :
    (Console.ask judge).Ensures l fun answer t =>
      Talked l t ∧ answer = .ok (some value) ∧ t.host.console.pending = rest := by
  refine (Console.ask_settles judges).mono ?_
  rintro answer _ ⟨c, rfl, outcome⟩
  obtain ⟨rfl, left⟩ := Prod.mk.inj (outcome.trans settled)
  exact ⟨⟨c, rfl⟩, rfl, left⟩

theorem say_bind {α : Type} {line : String} {f : Unit → Task (Launcher σ) α} {l : Launcher σ}
    {Q : Except Failure α → Launcher σ → Prop}
    (next : ∀ t, Talked l t → t.host.console.pending = l.host.console.pending →
      (f ()).Ensures t Q) : Ensures (Console.say line >>= f) l Q :=
  Ensures.step (Console.runOn_say line l) (next _ ⟨_, rfl⟩ rfl)

theorem chooseName_talks (args : Arguments) (question : String) (l : Launcher σ) :
    Talks (chooseName args question) l fun chosen _ =>
      ∀ name, chosen = some name → name ≠ "" ∧ Text.trim name = name := by
  unfold chooseName
  simp only
  split
  · refine say_bind fun t said _ => ?_
    exact Talks.after said (ask_talks (Console.judges_pure Console.judgeNonblank t)
      fun _ _ => Console.judgeNonblank_eq_ok)
  · rename_i nonempty
    refine Talks.pure ?_
    rintro _ ⟨⟩
    exact ⟨fun empty => nonempty (String.isEmpty_iff.mpr empty), Text.trim_trim _⟩

theorem chooseName_given {args : Arguments} {name : String} (given : args.text? "name" = some name)
    (nonempty : Text.trim name ≠ "") (question : String) :
    (chooseName args question : Task (Launcher σ) (Option String)) =
      pure (some (Text.trim name)) := by
  unfold chooseName
  rw [given, Option.getD_some]
  exact if_neg (mt String.isEmpty_iff.mp nonempty)

end Talking

def records (l : Launcher MemoryStore) : TextMap String :=
  l.host.store.records

theorem Talked.records {l t : Launcher MemoryStore} (talked : Talked l t) :
    t.records = l.records := by
  unfold Launcher.records
  rw [talked.store]

/-- The identifier can be given to a profile that may keep the identifier `current`. -/
def Available (records : TextMap String) (current : Option String) (id : String) : Prop :=
  Record.isValidIdentifier id = true ∧ (current = some id ∨ records.get? id = none)

def problemWith (records : TextMap String) (current : Option String) (id : String) :
    Option String :=
  if !Record.isValidIdentifier id then some unusableIdentifier
  else if current = some id then none
  else if records.contains id then some takenIdentifier
  else none

theorem problemWith_eq_none_iff (records : TextMap String) (current : Option String)
    (id : String) : problemWith records current id = none ↔ Available records current id := by
  unfold problemWith Available
  cases Record.isValidIdentifier id with
  | false => simp
  | true =>
    by_cases own : current = some id
    · simp [own]
    · cases found : records.get? id <;> simp [own, TextMap.contains, found]

theorem runOn_identifierProblem (id : String) (current : Option String)
    (l : Launcher MemoryStore) :
    (identifierProblem id current).runOn l = ⟨.ok (problemWith l.records current id), l, []⟩ := by
  unfold identifierProblem problemWith
  split
  · rfl
  · split
    · rfl
    · change Task.runOn (if l.records.contains id then
        (pure (some takenIdentifier) : Task (Launcher MemoryStore) (Option String))
        else pure none) l = _
      split <;> rfl

theorem runOn_suggestIdentifier (l : Launcher MemoryStore) (name : String) :
    (onStore (Profile.suggestIdentifier name)).runOn l =
      ⟨.ok (Profile.suggestion l.host.store name), l, []⟩ := rfl

/-- What a typed identifier comes to with some records. -/
def verdictWith (records : TextMap String) (suggested : String) (current : Option String)
    (answer : String) : Except String String :=
  let typed := Text.trim answer
  let id := if typed.isEmpty then suggested else typed
  match problemWith records current id with
  | some problem => .error problem
  | none => .ok id

private theorem verdictWith_eq_ok {records : TextMap String} {suggested : String}
    {current : Option String} {answer id : String}
    (judged : verdictWith records suggested current answer = .ok id) :
    Available records current id := by
  unfold verdictWith at judged
  simp only at judged
  split at judged
  · cases judged
  · rename_i free
    cases judged
    exact (problemWith_eq_none_iff _ _ _).mp free

theorem judgeIdentifier_judges (suggested : String) (current : Option String)
    (l : Launcher MemoryStore) :
    Judges (judgeIdentifier suggested current) (verdictWith l.records suggested current) l := by
  intro answer c
  have same : (withConsole c l).records = l.records := rfl
  unfold judgeIdentifier verdictWith
  refine Ensures.step (runOn_identifierProblem _ current _) ?_
  rw [same]
  simp only
  generalize (if (Text.trim answer).isEmpty = true then suggested else Text.trim answer) = id
  cases problemWith l.records current id with
  | some problem => exact Ensures.pure ⟨rfl, rfl⟩
  | none => exact Ensures.pure ⟨rfl, rfl⟩

theorem chooseIdentifier_talks (given : Option String) (suggested : String)
    (current : Option String) (l : Launcher MemoryStore) :
    Talks (chooseIdentifier given suggested current) l fun choice _ =>
      ∀ id, choice = .accepted id → Available l.records current id := by
  unfold chooseIdentifier
  cases given with
  | some text =>
    refine Ensures.step (runOn_identifierProblem _ current l) ?_
    cases problem : problemWith l.records current (Text.trim text) with
    | some problem => exact Talks.pure fun _ impossible => by cases impossible
    | none =>
      refine Talks.pure ?_
      rintro _ ⟨⟩
      exact (problemWith_eq_none_iff _ _ _).mp problem
  | none =>
    refine say_bind fun u said _ => say_bind fun v again _ => Talks.after (said.trans again) ?_
    have judges := judgeIdentifier_judges suggested current v
    rw [(said.trans again).records] at judges
    refine Talks.bind (ask_talks judges fun _ _ => verdictWith_eq_ok) ?_ ?_
    · intro chosen t talked found
      cases chosen with
      | none => exact Talks.after talked (Talks.pure fun _ impossible => by cases impossible)
      | some id =>
        refine Talks.after talked (Talks.pure ?_)
        rintro _ ⟨⟩
        exact found id rfl
    · intro e t talked
      exact ⟨talked, fun _ impossible => by cases impossible⟩

/-- The console answered yes, after answers that are neither yes nor no; the input after that is
left. -/
def SaidYes (before after : Console) : Prop :=
  ∃ (refused : List String) (answer : String),
    before.pending = refused.map Input.line ++ .line answer :: after.pending ∧
    (∀ text ∈ refused, ∃ complaint, Console.judgeYesNo text = .error complaint) ∧
    Text.lowerAscii (Text.trim answer) ∈ ["y", "yes"]

theorem confirmRemoval_talks (id : String) (l : Launcher MemoryStore) :
    Talks (confirmRemoval id) l fun confirmed t =>
      confirmed = some true → SaidYes l.host.console t.host.console := by
  unfold confirmRemoval
  refine say_bind fun u said same => say_bind fun v again sameAgain => ?_
  refine Talks.after (said.trans again) ((Console.ask_settles
    (Console.judges_pure Console.judgeYesNo v)).mono ?_)
  rintro answer t ⟨c, rfl, settled⟩
  refine ⟨⟨c, rfl⟩, ?_⟩
  rintro _ rfl rfl
  obtain ⟨refused, text, pending, refusals, accepted⟩ :=
    (Console.settle_eq_ok_some_iff Console.judgeYesNo _ c.pending true).mp settled.symm
  refine ⟨refused, text, ?_, refusals, (Console.judgeYesNo_eq_ok_true_iff text).mp accepted⟩
  rw [← same, ← sameAgain]
  exact pending

end Launcher

end ProfileShell
