import ProfileShell.Proofs.Session.Lines

/-!
What a play session writes.

A session writes under the identifier of its profile only. Each text that it writes is that of the
profile with the experience that the lines so far have awarded, added in their order, and with
another playtime and another time of the last activity. A session that ends by an exit or at the end
of input has written its last state; one that ends by a reading that fails has written what the
lines that save have written.
-/

set_option autoImplicit false
set_option relaxedAutoImplicit false

namespace ProfileShell

namespace MemoryStore

private theorem get?_recorded_of_ne (s : MemoryStore) (p : Profile) {key : String}
    (other : key ≠ p.id) : (s.recorded p).records.get? key = s.records.get? key := by
  unfold recorded
  split
  · rw [TextMap.get?_insert, if_neg other]
  · rfl

private theorem get?_recorded_self (s : MemoryStore) {p : Profile}
    (valid : Record.isValidIdentifier p.id = true) :
    (s.recorded p).records.get? p.id = some p.toText := by
  unfold recorded
  rw [if_pos valid, TextMap.get?_insert, if_pos rfl]

private theorem recorded_recorded (s : MemoryStore) {p q : Profile} (same : q.id = p.id) :
    (s.recorded p).recorded q = s.recorded q := by
  unfold recorded
  rw [same]
  split
  · refine congrArg MemoryStore.mk (TextMap.ext_get? fun key => ?_)
    simp only [TextMap.get?_insert]
    split <;> rfl
  · rfl

private theorem foldl_recorded (s : MemoryStore) {id : String} {saved : List Profile}
    (own : ∀ q ∈ saved, q.id = id) :
    saved.foldl recorded s = (saved.getLast?.map s.recorded).getD s := by
  induction saved generalizing s with
  | nil => rfl
  | cons p saved ih =>
    rw [List.foldl_cons, ih _ fun q member => own q (List.mem_cons_of_mem p member)]
    cases last : saved.getLast? with
    | none => simp [List.getLast?_eq_none_iff.mp last]
    | some q =>
      have sameId : q.id = p.id :=
        (own q (List.mem_cons_of_mem p (List.mem_of_getLast? last))).trans
          (own p List.mem_cons_self).symm
      simp [List.getLast?_cons, last, recorded_recorded s sameId]

private theorem get?_of_mem_scanl {s t : MemoryStore} {id key : String} {saved : List Profile}
    (own : ∀ q ∈ saved, q.id = id) (other : key ≠ id) (member : t ∈ saved.scanl recorded s) :
    t.records.get? key = s.records.get? key := by
  induction saved generalizing s with
  | nil =>
    rw [List.scanl_nil, List.mem_singleton] at member
    rw [member]
  | cons p saved ih =>
    rw [List.scanl_cons, List.mem_cons] at member
    rcases member with rfl | member
    · rfl
    · have same := own p List.mem_cons_self
      rw [ih (fun q later => own q (List.mem_cons_of_mem p later)) member,
        get?_recorded_of_ne s p (same ▸ other)]

end MemoryStore

private theorem Chronicle.states_foldl_recorded (c : Chronicle) (saved : List Profile) :
    (saved.foldl recorded c).states.reverse =
      c.past.reverse ++ saved.scanl MemoryStore.recorded c.current := by
  induction saved generalizing c with
  | nil => simp [states]
  | cons p saved ih =>
    rw [List.foldl_cons, ih, List.scanl_cons]
    simp [recorded, states]

private theorem Chronicle.current_foldl_recorded (c : Chronicle) (saved : List Profile) :
    (saved.foldl recorded c).current = saved.foldl MemoryStore.recorded c.current := by
  induction saved generalizing c with
  | nil => rfl
  | cons p saved ih => exact ih (c.recorded p)

/-- A host whose store remembers its states from now on. -/
def Host.chronicled (host : Host MemoryStore) : Host Chronicle :=
  ⟨⟨host.store, []⟩, host.console, host.clock⟩

namespace Session

open ProfileShell.Command (IsExitLine argumentsFor?)
open ProfileShell.Shell (LoopEnd Turns EndsWith)
open ProfileShell.Task (Ensures)

/-- A profile that differs from `p` at most in the experience, to which some amounts were added one
after another, in the playtime and in the time of the last activity. -/
def Earned (p : Profile) (amounts : List Int64) (q : Profile) : Prop :=
  q = { p with
    characterXp := amounts.foldl (fun xp amount => xp + Binary64.ofInt amount.toInt) p.characterXp
    totalPlaytime := q.totalPlaytime
    lastUpdated := q.lastUpdated }

namespace Earned

variable {p q r : Profile}

private theorem id_eq {amounts : List Int64} (earned : Earned p amounts q) : q.id = p.id := by
  rw [earned]

private theorem trans {first second : List Int64} (earned : Earned p first q)
    (later : Earned q second r) : Earned p (first ++ second) r := by
  unfold Earned at *
  rw [later, earned, List.foldl_append]

private theorem touch (p : Profile) (now : Binary64) : Earned p [] (p.touch now) := by
  unfold Earned Profile.touch
  split <;> rfl

private theorem resume (p : Profile) (now : Binary64) : Earned p [] (p.resume now) := rfl

private theorem id_eq_of_mem {α : Type} {amounts : α → List Int64} {points : List α}
    {saved : List Profile}
    (written : List.Forall₂ (fun a q => Earned p (amounts a) q) points saved) :
    ∀ q ∈ saved, q.id = p.id := by
  induction written with
  | nil => simp
  | cons earned _ ih => exact List.forall_mem_cons.mpr ⟨earned.id_eq, ih⟩

end Earned

def awards (lines : List String) : List Int64 :=
  lines.filterMap awarded?

/-- What was typed ahead of each line that saves. -/
def aheadOfSaves : List String → List (List String)
  | [] => []
  | line :: lines =>
    let later := (aheadOfSaves lines).map (line :: ·)
    if isSave line then [] :: later else later

private theorem awards_cons (line : String) (lines : List String) :
    awards (line :: lines) = (awarded? line).toList ++ awards lines := by
  unfold awards
  cases awarded : awarded? line <;> simp [awarded]

private theorem awarded?_of_isSave {line : String} (saves : isSave line = true) :
    awarded? line = none := by
  obtain ⟨args, handed⟩ := Option.isSome_iff_exists.mp saves
  obtain ⟨word, tokens, split, named, -⟩ := Command.argumentsFor?_eq_some_iff.mp handed
  have other : argumentsFor? "xp" [.needed "amount" .integer] line = none := by
    simp [argumentsFor?, split, named]
  rw [awarded?, other, Option.bind_none]

namespace Standing

private theorem answer_of_isSave {line : String} (saves : isSave line = true) (x : Standing) :
    x.answer line = x.save := by
  simp [answer, awarded?_of_isSave saves, saves]

private theorem store_answer_of_not_isSave {line : String} (idle : isSave line = false)
    (x : Standing) : (x.answer line).store = x.store := by
  unfold answer
  rw [idle]
  cases awarded? line <;> rfl

private theorem earned_answer (x : Standing) (line : String) :
    Earned x.profile (awarded? line).toList (x.answer line).profile := by
  unfold answer
  cases awarded? line with
  | some amount => rfl
  | none =>
    cases isSave line with
    | true => exact Earned.touch x.profile _
    | false => rfl

private theorem foldl_answer (x : Standing) (lines : List String) :
    ∃ saved, List.Forall₂ (fun before q => Earned x.profile (awards before) q)
        (aheadOfSaves lines) saved ∧
      (lines.foldl answer x).store = saved.foldl Chronicle.recorded x.store ∧
      Earned x.profile (awards lines) (lines.foldl answer x).profile := by
  induction lines generalizing x with
  | nil => exact ⟨[], .nil, rfl, rfl⟩
  | cons line lines ih =>
    obtain ⟨saved, written, stored, earned⟩ := ih (x.answer line)
    have first := x.earned_answer line
    have later : List.Forall₂ (fun before q => Earned x.profile (awards before) q)
        ((aheadOfSaves lines).map (line :: ·)) saved := by
      refine List.forall₂_map_left_iff.mpr (written.imp fun before q rest => ?_)
      rw [awards_cons]
      exact first.trans rest
    rw [List.foldl_cons, awards_cons]
    unfold aheadOfSaves
    cases saves : isSave line with
    | true =>
      refine ⟨(x.answer line).profile :: saved, .cons ?_ later, ?_, first.trans earned⟩
      · simpa [awarded?_of_isSave saves, awards] using first
      · rw [stored, answer_of_isSave saves]
        rfl
    | false =>
      refine ⟨saved, later, ?_, first.trans earned⟩
      rw [stored, store_answer_of_not_isSave saves]

end Standing

inductive EndsBy : List Input → Except Failure LoopEnd → Prop
  | exit {line : String} (isExit : IsExitLine line) (later : List Input) :
      EndsBy (.line line :: later) (.ok .exit)
  | endOfInput : EndsBy [] (.ok .endOfInput)
  | failure (fault : SystemFault) (later : List Input) :
      EndsBy (.failure fault :: later) (.error (.system fault))

section Loop

variable {policy : OverlapPolicy} {prompt : String} {s t last : Session Chronicle}

private theorem standing_of_answered {line : String} {reply : Reply}
    (answered : (Shell.answerLine (menu policy) line).Ensures s fun answer after =>
      answer = .ok reply ∧ after = t) :
    (reply.isExit = true ↔ IsExitLine line) ∧ t.standing = s.standing.answer line ∧
      t.host.console.pending = s.host.console.pending := by
  obtain ⟨⟨other, same, exits⟩, standing, silent⟩ := answerLine_ensures policy line s
  obtain ⟨answer, rfl⟩ := answered
  obtain rfl : reply = other := Except.ok.inj (answer.symm.trans same)
  exact ⟨exits, standing, silent⟩

private theorem pending_of_read {c : Console} {line : String}
    (read : Console.nextAnswer c.pending = .ok (some line)) :
    c.pending = .line line :: c.pending.tail := by
  cases pending : c.pending with
  | nil =>
    rw [pending] at read
    cases read
  | cons input later =>
    rw [pending] at read
    cases input with
    | line text =>
      cases read
      rfl
    | failure fault => cases read

private theorem standing_of_turns {lines : List String}
    (turns : Turns (menu policy) prompt s lines last) :
    s.host.console.pending = lines.map .line ++ last.host.console.pending ∧
      (∀ line ∈ lines, ¬IsExitLine line) ∧
      last.standing = lines.foldl Standing.answer s.standing := by
  induction turns with
  | nil s => exact ⟨rfl, by simp, rfl⟩
  | @cons s t u line lines reply read answered stays later ih =>
    obtain ⟨exits, standing, silent⟩ := standing_of_answered answered
    obtain ⟨input, others, folded⟩ := ih
    refine ⟨?_, ?_, ?_⟩
    · rw [silent] at input
      rw [pending_of_read (c := s.host.console) read, List.map_cons, List.cons_append]
      exact congrArg (Input.line line :: ·) input
    · intro other member
      rcases List.mem_cons.mp member with rfl | member
      · rw [← exits, stays]
        exact Bool.false_ne_true
      · exact others other member
    · rw [folded, standing]
      rfl

private theorem standing_of_endsWith {answer : Except Failure LoopEnd}
    (ends : EndsWith (menu policy) prompt last answer t) :
    EndsBy last.host.console.pending answer ∧ t.standing = last.standing := by
  cases ends with
  | @exit t line reply read answered leaves =>
    obtain ⟨exits, standing, -⟩ := standing_of_answered answered
    have isExit := exits.mp leaves
    have uncalled := Dispatcher.call?_eq_none_of_isExitLine (sound_menu policy) isExit
    refine ⟨?_, ?_⟩
    · rw [pending_of_read (c := last.host.console) read]
      exact .exit isExit _
    · rw [standing, answer_of_not_call uncalled]
      rfl
  | endOfInput read =>
    refine ⟨?_, rfl⟩
    change Console.nextAnswer last.host.console.pending = _ at read
    cases pending : last.host.console.pending with
    | nil => exact .endOfInput
    | cons input later =>
      rw [pending] at read
      cases input <;> cases read
  | failure read =>
    refine ⟨?_, rfl⟩
    change Console.nextAnswer last.host.console.pending = _ at read
    cases pending : last.host.console.pending with
    | nil =>
      rw [pending] at read
      cases read
    | cons input later =>
      rw [pending] at read
      cases input with
      | line text => cases read
      | failure fault =>
        cases read
        exact .failure fault later

private theorem run_ensures (policy : OverlapPolicy) (prompt : String) (s : Session Chronicle) :
    (Shell.run (menu policy) prompt).Ensures s fun answer t =>
      ∃ (lines : List String) (rest : List Input),
        s.host.console.pending = lines.map .line ++ rest ∧
        (∀ line ∈ lines, ¬IsExitLine line) ∧ EndsBy rest answer ∧
        t.standing = lines.foldl Standing.answer s.standing := by
  refine (Shell.run_turns (menu_consumes policy) prompt s).mono ?_
  rintro answer t ⟨lines, last, turns, ends⟩
  obtain ⟨input, stays, folded⟩ := standing_of_turns turns
  obtain ⟨closed, same⟩ := standing_of_endsWith ends
  exact ⟨lines, _, input, stays, closed, same.trans folded⟩

end Loop

def begun (p : Profile) (host : Host Chronicle) : Standing :=
  ⟨p.resume host.clock.now, host.clock.tick, host.store⟩

/-- A session over a chronicle: it resumes the profile, answers its lines, and writes the profile
once more unless a reading has failed. -/
private theorem loop_ensures (settings : Settings) (p : Profile) (host : Host Chronicle) :
    (loop settings).Ensures ⟨host, p⟩ fun answer t =>
      ∃ (lines : List String) (rest : List Input) (closing : Except Failure LoopEnd),
        host.console.pending = lines.map .line ++ rest ∧
        (∀ line ∈ lines, ¬IsExitLine line) ∧ EndsBy rest closing ∧
        let reached := lines.foldl Standing.answer (begun p host)
        match closing with
        | .ok ending =>
          answer = (Record.checkIdentifier t.profile.id).map (fun _ => ending) ∧
            t.standing = reached.save
        | .error e => answer = .error e ∧ t.standing = reached := by
  let resumed : Session Chronicle :=
    ⟨{ host with clock := host.clock.tick }, p.resume host.clock.now⟩
  let greeting := "Running game profile: " ++ p.id
  unfold loop
  refine Ensures.step (Registry.runOn_build_of_ok (answer_menu settings.overlapPolicy) _) ?_
  refine Ensures.step (b := host.clock.now) (t := ⟨resumed.host, p⟩) (w := []) rfl ?_
  refine Ensures.step (t := resumed) (w := []) rfl ?_
  refine Ensures.step (b := resumed) (t := resumed) (w := []) rfl ?_
  refine Ensures.step (t := Console.said greeting resumed) (w := []) rfl ?_
  refine Ensures.step (t := Console.said greeting resumed) (w := [_]) rfl ?_
  refine Ensures.bind (run_ensures settings.overlapPolicy _ _) ?_ ?_
  · rintro ending t ⟨lines, rest, input, stays, closed, standing⟩
    refine Ensures.bind (save_ensures t) ?_ ?_
    · rintro _ u ⟨checked, saved, -⟩
      refine Ensures.step (t := Console.said "Saved!" u) (w := []) rfl ?_
      refine Ensures.step (t := Console.said "Saved!" u) (w := [_]) rfl (Ensures.pure ?_)
      refine ⟨lines, rest, .ok ending, input, stays, closed, ?_, ?_⟩
      · change _ = (Record.checkIdentifier u.profile.id).map _
        rw [← checked]
        rfl
      · rw [standing_said, saved, standing]
        rfl
    · rintro e u ⟨checked, saved, -⟩
      refine ⟨lines, rest, .ok ending, input, stays, closed, ?_, ?_⟩
      · rw [← checked]
        rfl
      · rw [saved, standing]
        rfl
  · rintro e t ⟨lines, rest, input, stays, closed, standing⟩
    exact ⟨lines, rest, .error e, input, stays, closed, rfl, standing⟩

/-- The states that the store goes through while a profile is played, the first one first. -/
def states (settings : Settings) (p : Profile) (host : Host MemoryStore) : List MemoryStore :=
  ((play settings p).runOn host.chronicled).state.store.states.reverse

def finalProfile (settings : Settings) (p : Profile) (host : Host MemoryStore) : Profile :=
  ((loop settings).runOn ⟨host, p⟩).state.profile

/-- What was typed ahead of each write of a session: of the lines that save, and of its end unless
that is a reading that fails. -/
def savePoints (lines : List String) : List Input → List (List String)
  | .failure _ :: _ => aheadOfSaves lines
  | _ => aheadOfSaves lines ++ [lines]

/-- A session that answers `lines`, reads the first of `rest` last, and writes the profiles
`saved`. -/
structure Course (settings : Settings) (p : Profile) (host : Host MemoryStore)
    (lines : List String) (rest : List Input) (saved : List Profile) : Prop where
  input : host.console.pending = lines.map .line ++ rest
  stays : ∀ line ∈ lines, ¬IsExitLine line
  states : states settings p host = saved.scanl MemoryStore.recorded host.store
  others : ∀ s ∈ Session.states settings p host, ∀ key, key ≠ p.id →
    s.records.get? key = host.store.records.get? key
  written : List.Forall₂ (fun before q => Earned p (awards before) q) (savePoints lines rest) saved
  /-- The last write counts; without one the store is as it was. -/
  left : ((play settings p).runOn host).state.store =
    (saved.getLast?.map host.store.recorded).getD host.store
  answer : ∃ closing, EndsBy rest closing ∧ ((play settings p).runOn host).answer =
    closing.bind fun ending => (Record.checkIdentifier p.id).map fun _ => ending
  finished : ∀ ending, ((play settings p).runOn host).answer = .ok ending →
    saved.getLast? = some (finalProfile settings p host) ∧
      Earned p (awards lines) (finalProfile settings p host) ∧
      ((play settings p).runOn host).state.store.records.get? p.id =
        some (finalProfile settings p host).toText
  failed : ∀ fault later, rest = .failure fault :: later →
    ((play settings p).runOn host).answer = .error (.system fault)

section Endings

variable {lines : List String} {rest : List Input} {ending : LoopEnd} {e : Failure}

private theorem EndsBy.savePoints_of_ok (ends : EndsBy rest (.ok ending)) :
    savePoints lines rest = aheadOfSaves lines ++ [lines] := by
  cases ends <;> rfl

private theorem EndsBy.savePoints_of_error (ends : EndsBy rest (.error e)) :
    savePoints lines rest = aheadOfSaves lines := by
  cases ends
  rfl

private theorem EndsBy.eq_of_failure {fault : SystemFault} {later : List Input}
    {closing : Except Failure LoopEnd} (ends : EndsBy (.failure fault :: later) closing) :
    closing = .error (.system fault) := by
  cases ends
  rfl

end Endings

/-- A session is described by the profiles that it writes, if the last of them is its last state
wherever it ends without a failure. -/
private theorem course_of_writes {settings : Settings} {p : Profile} {host : Host MemoryStore}
    {lines : List String} {rest : List Input} {saved : List Profile}
    {closing : Except Failure LoopEnd}
    (input : host.console.pending = lines.map .line ++ rest)
    (stays : ∀ line ∈ lines, ¬IsExitLine line) (closed : EndsBy rest closing)
    (written : List.Forall₂ (fun before q => Earned p (awards before) q) (savePoints lines rest)
      saved)
    (stored : ((play settings p).runOn host.chronicled).state.store =
      saved.foldl Chronicle.recorded ⟨host.store, []⟩)
    (answer : ((play settings p).runOn host).answer =
      closing.bind fun ending => (Record.checkIdentifier p.id).map fun _ => ending)
    (last : ∀ ending, closing = .ok ending →
      saved.getLast? = some (finalProfile settings p host) ∧
        Earned p (awards lines) (finalProfile settings p host)) :
    Course settings p host lines rest saved := by
  have follows := (play_agrees Chronicle.agree settings p host.chronicled host ⟨rfl, rfl, rfl⟩).2
  have own := Earned.id_eq_of_mem written
  have states : states settings p host = saved.scanl MemoryStore.recorded host.store := by
    unfold Session.states
    rw [stored, Chronicle.states_foldl_recorded]
    rfl
  have left : ((play settings p).runOn host).state.store =
      (saved.getLast?.map host.store.recorded).getD host.store := by
    rw [← MemoryStore.foldl_recorded host.store own]
    refine (show _ = _ from follows.store).symm.trans ?_
    exact (congrArg Chronicle.current stored).trans (Chronicle.current_foldl_recorded _ saved)
  refine ⟨input, stays, states, ?_, written, left, ⟨closing, closed, answer⟩, ?_, ?_⟩
  · intro s member key other
    rw [states] at member
    exact MemoryStore.get?_of_mem_scanl own other member
  · intro ending finished
    rw [answer] at finished
    cases closing with
    | error e => cases finished
    | ok reached =>
      obtain ⟨lastSaved, earned⟩ := last reached rfl
      refine ⟨lastSaved, earned, ?_⟩
      cases valid : Record.isValidIdentifier p.id with
      | true =>
        rw [left, lastSaved, ← earned.id_eq]
        exact MemoryStore.get?_recorded_self host.store (earned.id_eq ▸ valid)
      | false =>
        obtain ⟨fault, refused⟩ := Record.checkIdentifier_of_invalid valid
        rw [refused] at finished
        cases finished
  · rintro fault later rfl
    rw [answer, closed.eq_of_failure]
    rfl

/-- Whatever is typed in a session, the store goes through the states that come of the profiles that
are written one after another, each of which is the profile at hand with what was awarded by then.
-/
theorem play_course (settings : Settings) (p : Profile) (host : Host MemoryStore) :
    Action.AgreesAt (Host.Related Chronicle.Follows) (play settings p).run (play settings p).run
        host.chronicled host ∧
      ∃ lines rest saved, Course settings p host lines rest saved := by
  have start : Host.Related Chronicle.Follows host.chronicled host := ⟨rfl, rfl, rfl⟩
  refine ⟨play_agrees Chronicle.agree settings p _ _ start, ?_⟩
  obtain ⟨sameAnswer, sameEnd⟩ :=
    loop_agrees Chronicle.agree settings ⟨host.chronicled, p⟩ ⟨host, p⟩ ⟨start, rfl⟩
  obtain ⟨lines, rest, closing, input, stays, closed, ends⟩ :=
    loop_ensures settings p host.chronicled
  obtain ⟨saved, written, stored, earned⟩ := Standing.foldl_answer (begun p host.chronicled) lines
  -- The lines start from the resumed profile, which has earned nothing yet.
  have resumed {amounts : List Int64} {q : Profile}
      (later : Earned (begun p host.chronicled).profile amounts q) : Earned p amounts q :=
    (Earned.resume p _).trans later
  have lineSaves := written.imp fun before q later => resumed later
  cases closing with
  | error e =>
    obtain ⟨answer, standing⟩ := ends
    refine ⟨lines, rest, saved, course_of_writes input stays closed ?_ ?_ ?_ ?_⟩
    · rw [closed.savePoints_of_error]
      exact lineSaves
    · exact (congrArg Standing.store standing).trans stored
    · exact sameAnswer.symm.trans answer
    · intro ending impossible
      cases impossible
  | ok ending =>
    obtain ⟨answer, standing⟩ := ends
    let reached := lines.foldl Standing.answer (begun p host.chronicled)
    have final : reached.save.profile = finalProfile settings p host :=
      (congrArg Standing.profile standing).symm.trans sameEnd.profile
    have whole : Earned p (awards lines) (finalProfile settings p host) := by
      have touched := (resumed earned).trans (Earned.touch reached.profile reached.clock.now)
      rw [List.append_nil] at touched
      exact final ▸ touched
    refine ⟨lines, rest, saved ++ [finalProfile settings p host],
      course_of_writes input stays closed ?_ ?_ ?_ ?_⟩
    · rw [closed.savePoints_of_ok]
      exact List.rel_append lineSaves (.cons whole .nil)
    · rw [List.foldl_append, ← final]
      refine (congrArg Standing.store standing).trans ?_
      exact congrArg (Chronicle.recorded · reached.save.profile) stored
    · refine sameAnswer.symm.trans (answer.trans ?_)
      have ids := (congrArg Profile.id sameEnd.profile).trans whole.id_eq
      exact congrArg (fun id => (Record.checkIdentifier id).map fun _ => ending) ids
    · exact fun _ _ => ⟨by simp, whole⟩

/-- Amounts that do not bind or are not positive are not awarded; a write comes of each `save` and
of the end of input. -/
example : awards ["xp 5", "XP -3", "xp five", "save", "xp 7"] = [5, 7] ∧
    savePoints ["xp 5", "save", "xp 7"] [] = [["xp 5"], ["xp 5", "save", "xp 7"]] := by
  decide +kernel

end Session

end ProfileShell
