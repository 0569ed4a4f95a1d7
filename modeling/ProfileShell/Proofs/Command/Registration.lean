import ProfileShell.Command.Tally
import ProfileShell.Proofs.Text.Trimming

/-!
What registration makes of a registry.

A command is accepted exactly when its names are new and usable, its parameters are legal and, where
the policy refuses overlaps, no registered command takes the same kinds of arguments. From this one
step follows the invariant of every registry that registration can lead to: the index holds the
names of the registered commands and nothing else, each at the position of its only owner.
-/

set_option autoImplicit false
set_option relaxedAutoImplicit false

namespace ProfileShell

variable {C : Type}

namespace TextMap

variable {α : Type}

private theorem get?_foldl_insert (names : List String) (value : α) (m : TextMap α) (key : String) :
    (names.foldl (fun m name => m.insert name value) m).get? key =
      if key ∈ names then some value else m.get? key := by
  induction names generalizing m with
  | nil => simp
  | cons name names ih =>
    rw [List.foldl_cons, ih, get?_insert]
    by_cases later : key ∈ names
    · simp [later]
    · simp [later]

theorem contains_eq_false_iff (m : TextMap α) (key : String) :
    m.contains key = false ↔ m.get? key = none := by
  simp [contains]

end TextMap

namespace ValueType

private theorem sameKind_iff (s t : ValueType) : s.sameKind t = true ↔ s.name = t.name := by
  cases s <;> cases t <;> simp [sameKind, name]

end ValueType

namespace Command

theorem mem_builtinNames_iff {name : String} :
    name ∈ builtinNames ↔ name = "help" ∨ name = "exit" ∨ name = "quit" := by
  simp [builtinNames]

theorem not_mem_builtinNames_iff {name : String} :
    name ∉ builtinNames ↔ name ≠ "help" ∧ ¬(name = "exit" ∨ name = "quit") := by
  rw [mem_builtinNames_iff, not_or]

structure IsUsable (name : String) : Prop where
  nonempty : name ≠ ""
  trimmed : Text.trim name = name
  lowered : Text.lowerAscii name = name
  free : name ∉ builtinNames

/-- Parameters with distinct names and legal fallbacks, those that must be given first. -/
structure AreLegal (parameters : List Parameter) : Prop where
  distinct : (parameters.map Parameter.name).Nodup
  fallbacks : ∀ p ∈ parameters, ∀ v, p.fallback = some v → p.type.accepts v = true
  ordered : parameters.Pairwise fun p q => q.required = true → p.required = true

def kinds (c : Command C) : List String :=
  c.parameters.map fun p => p.type.name

/-- The command was made from a name and aliases, which were normalized. -/
def IsDefined (c : Command C) : Prop :=
  ∃ name aliases parameters summary handler,
    c = define name aliases parameters summary handler

theorem isDefined_define (name : String) (aliases : List String) (parameters : List Parameter)
    (summary : String) (handler : Handler C) :
    (define name aliases parameters summary handler).IsDefined :=
  ⟨name, aliases, parameters, summary, handler, rfl⟩

theorem handler_define (name : String) (aliases : List String) (parameters : List Parameter)
    (summary : String) (handler : Handler C) :
    (define name aliases parameters summary handler).handler = handler := rfl

theorem IsDefined.normalize_name {c : Command C} (defined : c.IsDefined) {name : String}
    (member : name ∈ c.names) : normalize name = name := by
  obtain ⟨given, aliases, parameters, summary, handler, rfl⟩ := defined
  rcases List.mem_cons.mp member with rfl | member
  · exact normalize_normalize given
  · obtain ⟨written, -, rfl⟩ := List.mem_map.mp member
    exact normalize_normalize written

private theorem sameKinds_iff (ps qs : List Parameter) :
    sameKinds ps qs = true ↔
      (ps.map fun p => p.type.name) = qs.map fun p => p.type.name := by
  induction ps generalizing qs with
  | nil => cases qs <;> simp [sameKinds]
  | cons p ps ih =>
    cases qs with
    | nil => simp [sameKinds]
    | cons q qs => simp [sameKinds, ValueType.sameKind_iff, ih]

theorem overlaps_iff (c d : Command C) : c.overlaps d = true ↔ c.kinds = d.kinds :=
  sameKinds_iff c.parameters d.parameters

private theorem fallbackIsValid_iff (p : Parameter) :
    p.fallbackIsValid = true ↔ ∀ v, p.fallback = some v → p.type.accepts v = true := by
  unfold Parameter.fallbackIsValid
  cases p.fallback <;> simp

private theorem areLegal_cons (p : Parameter) (ps : List Parameter) :
    AreLegal (p :: ps) ↔
      p.name ∉ ps.map Parameter.name ∧ p.fallbackIsValid = true ∧
        (p.required = false → ∀ q ∈ ps, q.required = false) ∧ AreLegal ps := by
  constructor
  · rintro ⟨distinct, fallbacks, ordered⟩
    obtain ⟨fresh, distinct⟩ := List.nodup_cons.mp distinct
    obtain ⟨first, ordered⟩ := List.pairwise_cons.mp ordered
    refine ⟨fresh, (fallbackIsValid_iff p).mpr (fallbacks p (by simp)), ?_, distinct, ?_, ordered⟩
    · intro optional q member
      by_contra required
      have := first q member (by simpa using required)
      simp [optional] at this
    · intro q member
      exact fallbacks q (List.mem_cons_of_mem p member)
  · rintro ⟨fresh, valid, optional, distinct, fallbacks, ordered⟩
    refine ⟨List.nodup_cons.mpr ⟨fresh, distinct⟩, ?_, List.pairwise_cons.mpr ⟨?_, ordered⟩⟩
    · intro q member
      rcases List.mem_cons.mp member with rfl | member
      · exact (fallbackIsValid_iff q).mp valid
      · exact fallbacks q member
    · intro q member required
      by_contra missing
      have := optional (by simpa using missing) q member
      simp [required] at this

private theorem areLegal_nil : AreLegal [] :=
  ⟨List.nodup_nil, by simp, List.Pairwise.nil⟩

private theorem parameterFault_eq_none_iff (command : String) (seen : List String)
    (optionalSeen : Bool) (ps : List Parameter) :
    parameterFault command seen optionalSeen ps = none ↔
      (∀ p ∈ ps, p.name ∉ seen) ∧ AreLegal ps ∧
        (optionalSeen = true → ∀ p ∈ ps, p.required = false) := by
  induction ps generalizing seen optionalSeen with
  | nil => simp [parameterFault, areLegal_nil]
  | cons p ps ih =>
    rw [parameterFault, areLegal_cons]
    split
    · rename_i repeated
      have repeated : p.name ∈ seen := by simpa using repeated
      simp [repeated]
    · rename_i fresh
      have fresh : p.name ∉ seen := by simpa using fresh
      split
      · rename_i invalid
        have invalid : p.fallbackIsValid = false := by simpa using invalid
        simp [invalid]
      · rename_i valid
        have valid : p.fallbackIsValid = true := by simpa using valid
        split
        · rename_i late
          obtain ⟨required, after⟩ := Bool.and_eq_true_iff.mp late
          simp [required, after]
        · rename_i early
          rw [ih]
          simp only [List.mem_cons, not_or, Bool.or_eq_true, Bool.not_eq_true', List.mem_map,
            not_exists, not_and, forall_eq_or_imp]
          constructor
          · rintro ⟨names, legal, later⟩
            refine ⟨⟨fresh, fun q member => (names q member).2⟩,
              ⟨fun q member => (names q member).1, valid, fun optional => later (Or.inr optional),
                legal⟩, fun seenOne => ⟨?_, later (Or.inl seenOne)⟩⟩
            simpa [seenOne] using early
          · rintro ⟨⟨-, old⟩, ⟨own, -, optional, legal⟩, later⟩
            refine ⟨fun q member => ⟨own q member, old q member⟩, legal, ?_⟩
            rintro (seenOne | here)
            · exact (later seenOne).2
            · exact optional here

private theorem fault_eq_none_iff (c : Command C) :
    c.fault = none ↔ (∀ name ∈ c.names, name ≠ "") ∧ AreLegal c.parameters := by
  unfold fault
  split
  · rename_i empty
    obtain ⟨name, member, isEmpty⟩ := List.any_eq_true.mp empty
    constructor
    · intro impossible
      cases impossible
    · rintro ⟨nonempty, -⟩
      exact (nonempty name member (String.isEmpty_iff.mp isEmpty)).elim
  · rename_i nonempty
    have named : ∀ name ∈ c.names, name ≠ "" := by
      intro name member isEmpty
      exact nonempty (List.any_eq_true.mpr ⟨name, member, String.isEmpty_iff.mpr isEmpty⟩)
    rw [parameterFault_eq_none_iff]
    constructor
    · rintro ⟨-, legal, -⟩
      exact ⟨named, legal⟩
    · rintro ⟨-, legal⟩
      exact ⟨by simp, legal, by simp⟩

end Command

namespace Registry

open Command (builtinNames normalize)

private theorem nameFault_eq_none_iff (r : Registry C) (seen names : List String) :
    r.nameFault seen names = none ↔
      (∀ name ∈ names, name ∉ builtinNames ∧ r.index.get? name = none ∧ name ∉ seen) ∧
        names.Nodup := by
  induction names generalizing seen with
  | nil => simp [nameFault]
  | cons name names ih =>
    rw [nameFault]
    split
    · rename_i builtin
      have builtin : name ∈ builtinNames := by simpa using builtin
      simp [builtin]
    · rename_i notBuiltin
      have notBuiltin : name ∉ builtinNames := by simpa using notBuiltin
      split
      · rename_i taken
        rcases Bool.or_eq_true_iff.mp taken with indexed | repeated
        · have indexed : r.index.get? name ≠ none := by
            rw [← Bool.not_eq_false, TextMap.contains_eq_false_iff] at indexed
            exact indexed
          simp [indexed]
        · have repeated : name ∈ seen := by simpa using repeated
          simp [repeated]
      · rename_i free
        obtain ⟨unindexed, fresh⟩ := Bool.or_eq_false_iff.mp (Bool.eq_false_iff.mpr free)
        have unindexed := (r.index.contains_eq_false_iff name).mp unindexed
        have fresh : name ∉ seen := by simpa using fresh
        rw [ih]
        simp only [List.mem_cons, not_or, forall_eq_or_imp, List.nodup_cons]
        constructor
        · rintro ⟨rest, nodup⟩
          refine ⟨⟨⟨notBuiltin, unindexed, fresh⟩, fun other member => ?_⟩, ?_, nodup⟩
          · exact ⟨(rest other member).1, (rest other member).2.1, (rest other member).2.2.2⟩
          · intro member
            exact (rest name member).2.2.1 rfl
        · rintro ⟨⟨-, rest⟩, notLater, nodup⟩
          refine ⟨fun other member => ?_, nodup⟩
          obtain ⟨usable, absent, old⟩ := rest other member
          exact ⟨usable, absent, fun same => notLater (same ▸ member), old⟩

theorem nameFault_congr {D : Type} {r : Registry C} {q : Registry D} (same : r.index = q.index)
    (seen names : List String) : r.nameFault seen names = q.nameFault seen names := by
  induction names generalizing seen with
  | nil => rfl
  | cons name names ih => simp only [nameFault, same, ih]

theorem overlapFault_eq_none_iff (r : Registry C) (c : Command C) :
    r.overlapFault c = none ↔ (r.policy = .reject → ∀ d ∈ r.commands, d.kinds ≠ c.kinds) := by
  unfold overlapFault
  cases policy : r.policy with
  | reject =>
    cases clash : r.overlapping c with
    | none =>
      have disjoint := List.find?_eq_none.mp clash
      simpa [Command.overlaps_iff] using disjoint
    | some d =>
      have member := List.mem_of_find?_eq_some clash
      have same : d.overlaps c = true := by
        have found := List.find?_some clash
        exact found
      have same := (Command.overlaps_iff d c).mp same
      simp only [reduceCtorEq, forall_const, false_iff, not_forall, not_not]
      exact ⟨d, member, same⟩
  | warn => simp
  | allow => simp

/-- The conditions on which a registry accepts a command. -/
structure Accepts (r : Registry C) (c : Command C) : Prop where
  nonempty : ∀ name ∈ c.names, name ≠ ""
  legal : Command.AreLegal c.parameters
  free : ∀ name ∈ c.names, name ∉ builtinNames
  fresh : ∀ name ∈ c.names, r.index.get? name = none
  nodup : c.names.Nodup
  apart : r.policy = .reject → ∀ d ∈ r.commands, d.kinds ≠ c.kinds

theorem fault_eq_none_iff (r : Registry C) (c : Command C) : r.fault c = none ↔ r.Accepts c := by
  rw [fault, Option.or_eq_none_iff, Option.or_eq_none_iff, Command.fault_eq_none_iff,
    nameFault_eq_none_iff, overlapFault_eq_none_iff]
  constructor
  · rintro ⟨⟨nonempty, legal⟩, ⟨names, nodup⟩, apart⟩
    exact ⟨nonempty, legal, fun name member => (names name member).1,
      fun name member => (names name member).2.1, nodup, apart⟩
  · rintro ⟨nonempty, legal, free, fresh, nodup, apart⟩
    refine ⟨⟨nonempty, legal⟩, ⟨fun name member => ?_, nodup⟩, apart⟩
    exact ⟨free name member, fresh name member, List.not_mem_nil⟩

theorem run_register (r : Registry C) (c : Command C) :
    Action.run (register c).run r =
      match r.fault c with
      | some e => ⟨.error e, r, []⟩
      | none => ⟨.ok (), r.add c, r.acceptedLog c⟩ := rfl

theorem commands_add (r : Registry C) (c : Command C) :
    (r.add c).commands = r.commands ++ [c] := rfl

private theorem getElem?_commands_add (r : Registry C) (c d : Command C) (position : Nat) :
    (r.add c).commands[position]? = some d ↔
      r.commands[position]? = some d ∨ position = r.commands.length ∧ d = c := by
  rw [commands_add]
  rcases Nat.lt_or_ge position r.commands.length with old | new
  · rw [List.getElem?_append_left old]
    constructor
    · exact Or.inl
    · rintro (found | ⟨rfl, -⟩)
      · exact found
      · exact (Nat.lt_irrefl _ old).elim
  · rw [List.getElem?_append_right new, List.getElem?_singleton, List.getElem?_eq_none new]
    split
    · rename_i last
      have position : position = r.commands.length := by omega
      simp [position, eq_comm]
    · rename_i past
      have other : position ≠ r.commands.length := by omega
      simp [other]

theorem get?_index_add (r : Registry C) (c : Command C) (name : String) :
    (r.add c).index.get? name =
      if name ∈ c.names then some r.commands.length else r.index.get? name :=
  TextMap.get?_foldl_insert c.names r.commands.length r.index name

/-- What holds of every registry that registration leads to. -/
structure Sound (r : Registry C) : Prop where
  /-- The index holds the names of the commands, each at the position of its owner. -/
  index_iff : ∀ name position, r.index.get? name = some position ↔
    ∃ c, r.commands[position]? = some c ∧ name ∈ c.names
  /-- No name belongs to two commands or occurs twice in one. -/
  nodup : (r.commands.flatMap Command.names).Nodup
  usable : ∀ c ∈ r.commands, ∀ name ∈ c.names, Command.IsUsable name
  legal : ∀ c ∈ r.commands, Command.AreLegal c.parameters
  /-- Where overlaps are refused, no two commands take the same kinds of arguments. -/
  apart : r.policy = .reject → r.commands.Pairwise fun c d => c.kinds ≠ d.kinds

theorem sound_new (policy : OverlapPolicy) : (new policy : Registry C).Sound where
  index_iff name position := by simp [new]
  nodup := List.nodup_nil
  usable := by simp [new]
  legal := by simp [new]
  apart _ := List.Pairwise.nil

theorem Sound.get?_eq_none_iff {r : Registry C} (sound : r.Sound) (name : String) :
    r.index.get? name = none ↔ name ∉ r.commands.flatMap Command.names := by
  constructor
  · intro absent member
    obtain ⟨c, registered, member⟩ := List.mem_flatMap.mp member
    obtain ⟨position, atPosition⟩ := List.getElem?_of_mem registered
    have present := (sound.index_iff name position).mpr ⟨c, atPosition, member⟩
    simp [absent] at present
  · intro unowned
    by_contra present
    obtain ⟨position, found⟩ := Option.ne_none_iff_exists'.mp present
    obtain ⟨c, atPosition, member⟩ := (sound.index_iff name position).mp found
    exact unowned (List.mem_flatMap.mpr ⟨c, List.mem_of_getElem? atPosition, member⟩)

/-- An accepted command keeps the invariant. -/
theorem Sound.add {r : Registry C} (sound : r.Sound) {c : Command C} (defined : c.IsDefined)
    (accepts : r.Accepts c) : (r.add c).Sound where
  index_iff name position := by
    rw [get?_index_add]
    by_cases own : name ∈ c.names
    · rw [if_pos own, Option.some.injEq]
      constructor
      · rintro rfl
        exact ⟨c, (getElem?_commands_add r c c _).mpr (Or.inr ⟨rfl, rfl⟩), own⟩
      · rintro ⟨d, atPosition, member⟩
        rcases (getElem?_commands_add r c d position).mp atPosition with old | ⟨new, -⟩
        · -- An earlier owner of the name would be in the index.
          have indexed := (sound.index_iff name position).mpr ⟨d, old, member⟩
          simp [accepts.fresh name own] at indexed
        · exact new.symm
    · rw [if_neg own, sound.index_iff]
      constructor
      · rintro ⟨d, atPosition, member⟩
        exact ⟨d, (getElem?_commands_add r c d position).mpr (Or.inl atPosition), member⟩
      · rintro ⟨d, atPosition, member⟩
        rcases (getElem?_commands_add r c d position).mp atPosition with old | ⟨-, rfl⟩
        · exact ⟨d, old, member⟩
        · exact (own member).elim
  nodup := by
    rw [commands_add, List.flatMap_append, List.flatMap_singleton]
    refine List.nodup_append.mpr ⟨sound.nodup, accepts.nodup, ?_⟩
    intro name member other own same
    have absent := (sound.get?_eq_none_iff name).mp (accepts.fresh name (same ▸ own))
    exact absent member
  usable d member name own := by
    rcases List.mem_append.mp member with member | member
    · exact sound.usable d member name own
    · obtain rfl := List.mem_singleton.mp member
      have normal := defined.normalize_name own
      exact ⟨accepts.nonempty name own, by rw [← normal, Command.trim_normalize],
        by rw [← normal, Command.lowerAscii_normalize], accepts.free name own⟩
  legal d member := by
    rcases List.mem_append.mp member with member | member
    · exact sound.legal d member
    · exact List.mem_singleton.mp member ▸ accepts.legal
  apart policy := by
    rw [commands_add]
    refine List.pairwise_append.mpr ⟨sound.apart policy, List.pairwise_singleton _ _, ?_⟩
    intro d member e new
    rw [List.mem_singleton.mp new]
    exact accepts.apart policy d member

private theorem Sound.register {r : Registry C} (sound : r.Sound) {c : Command C}
    (defined : c.IsDefined) : (Action.run (register c).run r).state.Sound := by
  rw [run_register]
  cases fault : r.fault c with
  | some e => exact sound
  | none => exact sound.add defined ((fault_eq_none_iff r c).mp fault)

/-- Try to register commands one after another; a refused one changes nothing. -/
def attemptAll : List (Command C) →
    Action (Registry C) (List (Except RegistrationError Unit))
  | [] => pure []
  | c :: cs => do
    let answer ← (register c).run
    let answers ← attemptAll cs
    pure (answer :: answers)

def accepted (cs : List (Command C)) (answers : List (Except RegistrationError Unit)) :
    List (Command C) :=
  ((cs.zip answers).filter fun call => call.2.isOk).map Prod.fst

def Reachable (r : Registry C) : Prop :=
  ∃ policy cs, (∀ c ∈ cs, Command.IsDefined c) ∧
    r = (Action.run (attemptAll cs) (new policy)).state

/-- A run of registrations keeps the invariant and adds the accepted commands at the end. -/
theorem run_attemptAll {r : Registry C} (sound : r.Sound) {cs : List (Command C)}
    (defined : ∀ c ∈ cs, Command.IsDefined c) :
    (Action.run (attemptAll cs) r).state.Sound ∧
      (Action.run (attemptAll cs) r).state.policy = r.policy ∧
      (Action.run (attemptAll cs) r).answer.length = cs.length ∧
      (Action.run (attemptAll cs) r).state.commands =
        r.commands ++ accepted cs (Action.run (attemptAll cs) r).answer := by
  -- Later calls meet the registry that the first one left.
  induction cs generalizing r with
  | nil => exact ⟨sound, rfl, rfl, (List.append_nil _).symm⟩
  | cons c cs ih =>
    have next := sound.register (defined c List.mem_cons_self)
    obtain ⟨kept, policy, length, commands⟩ :=
      ih next fun d member => defined d (List.mem_cons_of_mem c member)
    simp only [attemptAll, Action.run_bind, Action.run_pure] at kept policy length commands ⊢
    refine ⟨kept, ?_, by rw [List.length_cons, List.length_cons, length], ?_⟩
    · rw [policy, run_register]
      cases r.fault c <;> rfl
    · rw [commands, run_register]
      cases r.fault c with
      | some e => rfl
      | none => simp [accepted, commands_add, Except.isOk, Except.toBool]

theorem mem_attemptAll_singleton {policy : OverlapPolicy} {c : Command C}
    (faultless : (new policy : Registry C).fault c = none) :
    c ∈ (Action.run (attemptAll [c]) (new policy)).state.commands := by
  simp only [attemptAll, Action.run_bind, Action.run_pure, run_register, faultless]
  exact List.mem_singleton_self c

private theorem run_registerAll_cons (c : Command C) (cs : List (Command C)) (r : Registry C) :
    Action.run (registerAll (c :: cs)).run r =
      match r.fault c with
      | some e => ⟨.error e, r, []⟩
      | none =>
        let rest := Action.run (registerAll cs).run (r.add c)
        ⟨rest.answer, rest.state, r.acceptedLog c ++ rest.log⟩ := by
  change Action.run ((register c).run >>= ExceptT.bindCont fun _ => registerAll cs) r = _
  rw [Action.run_bind, run_register]
  cases r.fault c <;> rfl

private theorem run_registerAll {r : Registry C} (sound : r.Sound) {cs : List (Command C)}
    (defined : ∀ c ∈ cs, Command.IsDefined c) :
    (Action.run (registerAll cs).run r).state.Sound ∧
      ((Action.run (registerAll cs).run r).answer = .ok () →
        (Action.run (registerAll cs).run r).state.commands = r.commands ++ cs) := by
  induction cs generalizing r with
  | nil => exact ⟨sound, fun _ => (List.append_nil _).symm⟩
  | cons c cs ih =>
    rw [run_registerAll_cons]
    cases fault : r.fault c with
    | some e => exact ⟨sound, fun impossible => by cases impossible⟩
    | none =>
      have added := sound.add (defined c List.mem_cons_self) ((fault_eq_none_iff r c).mp fault)
      obtain ⟨kept, commands⟩ := ih added fun d member => defined d (List.mem_cons_of_mem c member)
      rw [commands_add, List.append_assoc, List.singleton_append] at commands
      exact ⟨kept, commands⟩

theorem sound_ofCommands (policy : OverlapPolicy) {cs : List (Command C)}
    (defined : ∀ c ∈ cs, Command.IsDefined c) : (ofCommands policy cs).state.Sound :=
  (run_registerAll (sound_new policy) defined).1

theorem commands_ofCommands {policy : OverlapPolicy} {cs : List (Command C)}
    (defined : ∀ c ∈ cs, Command.IsDefined c)
    (accepted : (ofCommands policy cs).answer = .ok ()) :
    (ofCommands policy cs).state.commands = cs :=
  (run_registerAll (sound_new policy) defined).2 accepted

private theorem mem_registerAll {cs : List (Command C)} {r : Registry C} {c : Command C}
    (member : c ∈ (Action.run (registerAll cs).run r).state.commands) :
    c ∈ r.commands ∨ c ∈ cs := by
  induction cs generalizing r with
  | nil => exact Or.inl member
  | cons d cs ih =>
    rw [run_registerAll_cons] at member
    cases fault : r.fault d with
    | some e =>
      rw [fault] at member
      exact Or.inl member
    | none =>
      rw [fault] at member
      rcases ih member with old | later
      · rcases List.mem_append.mp old with old | new
        · exact Or.inl old
        · exact Or.inr (List.mem_singleton.mp new ▸ List.mem_cons_self)
      · exact Or.inr (List.mem_cons_of_mem d later)

theorem mem_of_mem_ofCommands {policy : OverlapPolicy} {cs : List (Command C)} {c : Command C}
    (member : c ∈ (ofCommands policy cs).state.commands) : c ∈ cs := by
  rcases mem_registerAll member with old | given
  · cases old
  · exact given

theorem Reachable.sound {r : Registry C} (reachable : r.Reachable) : r.Sound := by
  obtain ⟨policy, cs, defined, rfl⟩ := reachable
  exact (run_attemptAll (sound_new policy) defined).1

theorem Sound.lt_length {r : Registry C} (sound : r.Sound) {name : String} {position : Nat}
    (found : r.index.get? name = some position) : position < r.commands.length := by
  obtain ⟨c, atPosition, -⟩ := (sound.index_iff name position).mp found
  exact (List.getElem?_eq_some_iff.mp atPosition).1

private theorem Sound.position_unique {r : Registry C} (sound : r.Sound) {name : String} {i j : Nat}
    {c d : Command C} (first : r.commands[i]? = some c) (own : name ∈ c.names)
    (second : r.commands[j]? = some d) (other : name ∈ d.names) : i = j := by
  have here := (sound.index_iff name i).mpr ⟨c, first, own⟩
  have there := (sound.index_iff name j).mpr ⟨d, second, other⟩
  exact Option.some.inj (here.symm.trans there)

theorem mem_of_lookup {r : Registry C} {name : String} {c : Command C}
    (found : r.lookup name = some c) : c ∈ r.commands := by
  obtain ⟨position, -, atPosition⟩ := Option.bind_eq_some_iff.mp found
  exact List.mem_of_getElem? atPosition

private theorem Sound.lookup_eq_some_iff {r : Registry C} (sound : r.Sound) (s : String)
    (c : Command C) :
    r.lookup s = some c ↔
      ∃ position : Nat, r.commands[position]? = some c ∧ normalize s ∈ c.names := by
  rw [lookup, Option.bind_eq_some_iff]
  constructor
  · rintro ⟨position, indexed, atPosition⟩
    obtain ⟨d, owner, member⟩ := (sound.index_iff _ position).mp indexed
    rw [atPosition] at owner
    exact ⟨position, atPosition, Option.some.inj owner ▸ member⟩
  · rintro ⟨position, atPosition, member⟩
    exact ⟨position, (sound.index_iff _ position).mpr ⟨c, atPosition, member⟩, atPosition⟩

theorem Sound.lookup_eq_some_iff_mem {r : Registry C} (sound : r.Sound) (s : String)
    (c : Command C) : r.lookup s = some c ↔ c ∈ r.commands ∧ normalize s ∈ c.names := by
  rw [sound.lookup_eq_some_iff, exists_and_right, ← List.mem_iff_getElem?]

/-- Whatever is registered, accepted or refused, in whatever order: the registry holds the accepted
commands in the order of the calls, its invariant holds, and a lookup finds the one command that
has the name. -/
theorem registration_invariant (policy : OverlapPolicy) (cs : List (Command C))
    (defined : ∀ c ∈ cs, Command.IsDefined c) :
    let run := Action.run (attemptAll cs) (new policy)
    run.state.policy = policy ∧
      run.answer.length = cs.length ∧
      run.state.commands = accepted cs run.answer ∧
      run.state.Sound ∧
      (∀ name position, run.state.index.get? name = some position →
        position < run.state.commands.length) ∧
      ∀ s c, run.state.lookup s = some c ↔
        ∃ position : Nat, run.state.commands[position]? = some c ∧ normalize s ∈ c.names ∧
          ∀ (other : Nat) (d : Command C), run.state.commands[other]? = some d →
            normalize s ∈ d.names → other = position := by
  obtain ⟨sound, same, length, commands⟩ := run_attemptAll (sound_new policy) defined
  refine ⟨same, length, commands, sound, fun name position => sound.lt_length, fun s c => ?_⟩
  rw [sound.lookup_eq_some_iff]
  constructor
  · rintro ⟨position, atPosition, member⟩
    refine ⟨position, atPosition, member, fun other d found own => ?_⟩
    exact sound.position_unique found own atPosition member
  · rintro ⟨position, atPosition, member, -⟩
    exact ⟨position, atPosition, member⟩

def threeCommands : List (Command Tally) :=
  [.define " Add" ["PLUS"] [.needed "amount" .integer] "" (Tally.handler (.add "amount")),
    .define "plus" [] [.needed "amount" .number] "" (Tally.handler .echo),
    .define "reset" [] [] "" (Tally.handler .echo)]

theorem isDefined_threeCommands : ∀ c ∈ threeCommands, Command.IsDefined c := by
  intro c member
  simp only [threeCommands, List.mem_cons, List.not_mem_nil, or_false] at member
  rcases member with rfl | rfl | rfl <;> exact Command.isDefined_define _ _ _ _ _

theorem registration_invariant_threeCommands :
    (∀ c ∈ threeCommands, Command.IsDefined c) ∧
      let run := Action.run (attemptAll threeCommands) (new .reject)
      run.state.Sound ∧ run.state.commands.map Command.name = ["add", "reset"] := by
  obtain ⟨-, -, commands, sound, -⟩ :=
    registration_invariant .reject threeCommands isDefined_threeCommands
  refine ⟨isDefined_threeCommands, sound, ?_⟩
  rw [commands]
  decide +kernel

end Registry

end ProfileShell
