import Mathlib.Data.List.Induction
import ProfileShell.Command.Tally
import ProfileShell.Proofs.Command.Reply
import ProfileShell.Proofs.Json.Compact
import ProfileShell.Proofs.Json.Rereading

/-!
Replies as JSON text, and back.

However a reply is built, no field of it has the name of its kind, so that its one flat object can
be taken apart again: the field `type` is the kind, and all others are the fields. Its text depends
on what the reply answers and not on the order in which it was built. A reply whose text is read
comes back as it was exactly when its doubles do.
-/

set_option autoImplicit false
set_option relaxedAutoImplicit false

namespace ProfileShell

/-- The counts in an error are those of a machine. -/
def BindError.Fits : BindError → Prop
  | .tooManyArguments expected given => expected < UInt64.size ∧ given < UInt64.size
  | _ => True

namespace TextMap

private theorem get?_eq_none_iff {α : Type} (m : TextMap α) (key : String) :
    m.get? key = none ↔ ∀ entry ∈ m.entries, entry.1 ≠ key := by
  unfold get?
  rw [Option.map_eq_none_iff, List.find?_eq_none]
  simp only [beq_iff_eq, ne_eq]

end TextMap

namespace Reply

/-- No field has the name of the kind. -/
def Untagged (r : Reply) : Prop :=
  r.get? kindField = none

/-- The fields can be stored inside one more object. -/
def Storable (r : Reply) : Prop :=
  ∀ entry ∈ r.fields.entries, Json.Storable (Json.maxDepth - 1) entry.2

def reread (r : Reply) : Reply :=
  ⟨r.kind, r.fields.map Json.reread⟩

def doubles (r : Reply) : List Binary64 :=
  r.fields.values.flatMap Json.doubles

private theorem ext_get? {r q : Reply} (kind : r.kind = q.kind)
    (fields : ∀ name, r.get? name = q.get? name) : r = q := by
  obtain ⟨k, m⟩ := r
  obtain ⟨l, n⟩ := q
  obtain rfl : k = l := kind
  obtain rfl : m = n := TextMap.ext_get? fields
  rfl

section Building

private theorem untagged_ofKind (kind : String) : (ofKind kind).Untagged := rfl

private theorem Untagged.add {r : Reply} (untagged : r.Untagged) (name : String) (value : Json) :
    (r.add name value).Untagged := by
  unfold Untagged
  by_cases reserved : name = kindField
  · rw [Reply.add, if_pos reserved]
    exact untagged
  · rw [get?_add r reserved, if_neg (Ne.symm reserved)]
    exact untagged

private theorem storable_ofKind (kind : String) : (ofKind kind).Storable := by
  intro entry impossible
  cases impossible

private theorem Storable.add {r : Reply} (storable : r.Storable) (name : String) {value : Json}
    (valueStorable : Json.Storable (Json.maxDepth - 1) value) : (r.add name value).Storable := by
  by_cases reserved : name = kindField
  · rw [Reply.add, if_pos reserved]
    exact storable
  · rw [Reply.add, if_neg reserved]
    intro entry member
    rcases TextMap.mem_insert member with rfl | member
    · exact valueStorable
    · exact storable entry member

def extend (r : Reply) (fields : List (String × Json)) : Reply :=
  fields.foldl (fun r field => r.add field.1 field.2) r

private theorem extend_induct {P : Reply → Prop} {r : Reply} {fields : List (String × Json)}
    (start : P r)
    (step : ∀ q, P q → ∀ field ∈ fields, P (q.add field.1 field.2)) : P (r.extend fields) := by
  induction fields generalizing r with
  | nil => exact start
  | cons field fields ih =>
    refine ih (step r start field List.mem_cons_self) ?_
    exact fun q good other member => step q good other (List.mem_cons_of_mem field member)

private theorem kind_extend (r : Reply) (fields : List (String × Json)) :
    (r.extend fields).kind = r.kind :=
  extend_induct (P := fun q => q.kind = r.kind) rfl
    fun q same field _ => (kind_add q field.1 field.2).trans same

def lastSet (fields : List (String × Json)) (name : String) : Option Json :=
  (fields.reverse.find? fun field => field.1 == name).map Prod.snd

private theorem get?_extend (r : Reply) (fields : List (String × Json)) {name : String}
    (free : name ≠ kindField) :
    (r.extend fields).get? name = (lastSet fields name).or (r.get? name) := by
  -- The last field decides, so the induction takes the fields off from behind.
  induction fields using List.reverseRecOn with
  | nil => rfl
  | append_singleton fields field ih =>
    obtain ⟨key, value⟩ := field
    have last : (r.extend (fields ++ [(key, value)])) = (r.extend fields).add key value := by
      unfold extend
      rw [List.foldl_append]
      rfl
    unfold lastSet at ih ⊢
    rw [last, List.reverse_append, List.reverse_singleton, List.singleton_append,
      List.find?_cons]
    by_cases same : key = name
    · rw [get?_add _ (same ▸ free), if_pos same.symm]
      simp [same]
    · have other : (r.extend fields).get? name = ((r.extend fields).add key value).get? name := by
        by_cases reserved : key = kindField
        · rw [add, if_pos reserved]
        · rw [get?_add _ reserved, if_neg (Ne.symm same)]
      rw [← other, ih, beq_eq_false_iff_ne.mpr same]

private theorem run_attach (name : String) (value : Json) (r : Reply) :
    (Action.run (attach name value) r).state = r.add name value := by
  unfold attach add
  split <;> rfl

private theorem answer_build (base : Reply) (fields : List (String × Json)) (s : Reply) :
    (Action.run (Tally.build base fields) s).answer = base.extend fields := by
  have loop : ∀ r : Reply, (Action.run (forIn fields PUnit.unit fun field _ => do
      attach field.1 field.2
      pure (ForInStep.yield PUnit.unit)) r).state = r.extend fields := by
    induction fields with
    | nil => exact fun _ => rfl
    | cons field fields ih =>
      intro r
      rw [List.forIn_cons, Action.run_bind, Action.run_bind, run_attach]
      exact ih (r.add field.1 field.2)
  exact loop base

end Building

/-- What a reply can start from. -/
inductive Base
  | ofKind (kind : String)
  | exit
  | success
  | failed
  | interrupted
  | empty
  | help (content : String)
  | unknownCommand (input : String)
  | invalidArgument (command : String) (error : BindError)
  | handlerFault (command : String)

namespace Base

def reply : Base → Reply
  | .ofKind kind => .ofKind kind
  | .exit => .exit
  | .success => .success
  | .failed => .failed
  | .interrupted => .interrupted
  | .empty => .empty
  | .help content => .help content
  | .unknownCommand input => .unknownCommand input
  | .invalidArgument command error => .invalidArgument command error
  | .handlerFault command => .handlerFault command

def kind : Base → String
  | .ofKind kind => kind
  | .exit => "exit"
  | .success => "success"
  | .failed | .handlerFault _ => "failed"
  | .interrupted => "interrupted"
  | .empty => "empty"
  | .help _ => "help"
  | .unknownCommand _ => "unknown_command"
  | .invalidArgument _ _ => "invalid_argument"

def Fits : Base → Prop
  | .invalidArgument _ error => error.Fits
  | _ => True

private theorem kind_reply (b : Base) : b.reply.kind = b.kind := by
  cases b with
  | help content => exact Reply.kind_help content
  | unknownCommand input => exact Reply.kind_unknownCommand input
  | invalidArgument command error => exact Reply.kind_invalidArgument command error
  | handlerFault command => exact Reply.kind_handlerFault command
  | _ => rfl

private theorem untagged_reply (b : Base) : b.reply.Untagged := by
  cases b with
  | help content => exact (untagged_ofKind _).add _ _
  | unknownCommand input => exact (untagged_ofKind _).add _ _
  | invalidArgument command error => exact (((untagged_ofKind _).add _ _).add _ _).add _ _
  | handlerFault command => exact ((untagged_ofKind _).add _ _).add _ _
  | _ => exact untagged_ofKind _

private theorem storable_fields {error : BindError} (fits : error.Fits) {entry : String × Json}
    (member : entry ∈ error.fields) (depth : Nat) : Json.Storable depth entry.2 := by
  cases error with
  | missingArgument argument =>
    simp only [BindError.fields, List.mem_cons, List.not_mem_nil, or_false] at member
    rcases member with rfl | rfl <;> simp only [Json.Storable]
  | invalidArgument argument token expected =>
    simp only [BindError.fields, List.mem_cons, List.not_mem_nil, or_false] at member
    rcases member with rfl | rfl | rfl | rfl <;> simp only [Json.Storable]
  | tooManyArguments expected given =>
    have count : ∀ n : Nat, n < UInt64.size → Json.Fits n := by
      intro n small
      have low : Int64.minValue.toInt ≤ 0 := by decide
      exact ⟨by omega, by exact_mod_cast small⟩
    simp only [BindError.fields, List.mem_cons, List.not_mem_nil, or_false] at member
    rcases member with rfl | rfl | rfl <;> simp only [Json.Storable]
    · exact count expected fits.1
    · exact count given fits.2

private theorem storable_reply {b : Base} (fits : b.Fits) : b.reply.Storable := by
  have text : ∀ s, Json.Storable (Json.maxDepth - 1) (.text s) := fun s => by
    simp only [Json.Storable]
  cases b with
  | help content => exact (storable_ofKind _).add _ (text _)
  | unknownCommand input => exact (storable_ofKind _).add _ (text _)
  | invalidArgument command error =>
    refine (((storable_ofKind _).add _ (text _)).add _ ?_).add _ (text _)
    exact ⟨(TextMap.ofList error.fields).ascending,
      fun entry member => storable_fields fits (TextMap.mem_ofList member) _⟩
  | handlerFault command => exact ((storable_ofKind _).add _ (text _)).add _ (text _)
  | _ => exact storable_ofKind _

end Base

section Reading

private theorem ofRaw?_raw {r : Reply} (untagged : r.Untagged) (storable : r.Storable) :
    ofRaw? r.toJson.raw = some r.reread := by
  have storables : ∀ field ∈ (kindField, Json.text r.kind) :: r.fields.entries,
      Json.Storable (Json.maxDepth - 1) field.2 :=
    List.forall_mem_cons.mpr ⟨by simp only [Json.Storable], storable⟩
  have readFields : ((kindField, Json.text r.kind) :: r.fields.entries).map
      (fun field => (field.1, field.2.reread)) =
        (kindField, .text r.kind) :: r.reread.fields.entries := by
    have tag : (Json.text r.kind).reread = .text r.kind := by simp [Json.reread]
    rw [List.map_cons, tag]
    rfl
  have others : ∀ entry ∈ r.reread.fields.entries, (entry.1 == kindField) = false := by
    intro entry member
    obtain ⟨field, listed, rfl⟩ := List.mem_map.mp member
    exact beq_eq_false_iff_ne.mpr ((TextMap.get?_eq_none_iff _ _).mp untagged field listed)
  have kinds : r.reread.fields.entries.filter (fun field => field.1 == kindField) = [] := by
    rw [List.filter_eq_nil_iff]
    intro entry member
    rw [others entry member]
    exact Bool.false_ne_true
  have rest : r.reread.fields.entries.filter (not ∘ fun field => field.1 == kindField) =
      r.reread.fields.entries := by
    rw [List.filter_eq_self]
    intro entry member
    rw [Function.comp_apply, others entry member]
    rfl
  unfold toJson ofRaw?
  simp only [Json.raw, Json.rawFields_eq]
  rw [mapM_map_eq_some (h := fun field => (field.1, field.2.reread)) fun field member => by
    simp only [Json.toJson?_raw field.2 _ (storables field member)]]
  simp only [readFields, Option.bind_eq_bind, Option.bind_some, List.partition_eq_filter_filter,
    List.filter_cons, beq_self_eq_true, if_true, kinds, rest, Function.comp_apply, Bool.not_true,
    Bool.false_eq_true, if_false, TextMap.ofList_entries]
  rfl

private theorem of_ofRaw? {tree : Json.Raw} {r : Reply} (read : ofRaw? tree = some r) :
    r.Untagged ∧ r.Storable := by
  unfold ofRaw? at read
  split at read
  · simp only [Option.bind_eq_bind, Option.bind_eq_some_iff] at read
    obtain ⟨fields, all, taken⟩ := read
    rw [List.partition_eq_filter_filter] at taken
    dsimp only at taken
    split at taken
    · cases taken
      constructor
      · refine (TextMap.get?_eq_none_iff _ _).mpr fun entry member => ?_
        have kept := (List.mem_filter.mp (TextMap.mem_ofList member)).2
        simpa using kept
      · intro entry member
        have listed := (List.mem_filter.mp (TextMap.mem_ofList member)).1
        obtain ⟨field, -, found⟩ := exists_of_mem_mapM all listed
        split at found
        · rename_i value _ readValue
          cases found
          exact Json.storable_of_toJson? readValue
        · cases found
    · cases taken
  · cases read

private theorem parse_compact {r : Reply} (untagged : r.Untagged) (storable : r.Storable) :
    parse r.toJson.compact = .ok r.reread := by
  unfold parse
  rw [Json.parse?_compact, Option.bind_some, ofRaw?_raw untagged storable]

private theorem Storable.isFinite_of_mem_doubles {r : Reply} (storable : r.Storable) {x : Binary64}
    (member : x ∈ r.doubles) : x.isFinite = true := by
  obtain ⟨v, listed, inside⟩ := List.mem_flatMap.mp member
  obtain ⟨entry, present, rfl⟩ := List.mem_map.mp listed
  exact Json.isFinite_of_mem_doubles (storable entry present) inside

private theorem reread_eq_self_iff (r : Reply) : r.reread = r ↔ ∀ x ∈ r.doubles, x.reread = x := by
  have fields : r.fields.map Json.reread = r.fields ↔ ∀ x ∈ r.doubles, x.reread = x := by
    rw [TextMap.map_eq_self_iff, doubles, List.forall_mem_flatMap]
    exact forall₂_congr fun v _ => Json.reread_eq_self_iff v
  rw [← fields]
  obtain ⟨kind, fields⟩ := r
  simp only [reread, Reply.mk.injEq, true_and]

private theorem parse_compact_eq_iff {r : Reply} (untagged : r.Untagged) (storable : r.Storable) :
    parse r.toJson.compact = .ok r ↔ ∀ x ∈ r.doubles, Json.ReadsBack x := by
  rw [parse_compact untagged storable, Except.ok.injEq, reread_eq_self_iff]
  refine forall₂_congr fun x member => ?_
  exact (Json.readsBack_iff (storable.isFinite_of_mem_doubles member)).symm

private theorem of_parse {text : String} {r : Reply} (accepted : parse text = .ok r) :
    r.Untagged ∧ r.Storable := by
  unfold parse at accepted
  split at accepted
  · rename_i q read
    cases accepted
    obtain ⟨tree, -, taken⟩ := Option.bind_eq_some_iff.mp read
    exact of_ofRaw? taken
  · cases accepted

end Reading

private theorem untagged_extend {r : Reply} (untagged : r.Untagged)
    (fields : List (String × Json)) : (r.extend fields).Untagged :=
  extend_induct untagged fun _ good _ _ => good.add _ _

private theorem storable_extend {r : Reply} (storable : r.Storable) {fields : List (String × Json)}
    (fieldsStorable : ∀ field ∈ fields, Json.Storable (Json.maxDepth - 1) field.2) :
    (r.extend fields).Storable :=
  extend_induct storable fun _ good field member => good.add _ (fieldsStorable field member)

/-- Whatever a reply starts from and whatever fields are set, the kind stays and is no field, and
each name has the value that was set last. The text of a reply depends on its kind and on what it
answers. It is read as that reply exactly when the text of each double in it reads back, where the
containers in it are not nested too deep; and so is the text of any reply that has been read. -/
theorem reply_survives_wire (b : Base) (fields : List (String × Json)) (s : Reply) :
    let r := (Action.run (Tally.build b.reply fields) s).answer
    r.kind = b.kind ∧
      (∀ name, r.get? name =
        if name = kindField then none else (lastSet fields name).or (b.reply.get? name)) ∧
      (∀ q : Reply, q.kind = r.kind → (∀ name, q.get? name = r.get? name) →
        q.toJson.compact = r.toJson.compact) ∧
      (b.Fits → (∀ field ∈ fields, Json.Storable (Json.maxDepth - 1) field.2) → r.Storable) ∧
      (r.Storable → (parse r.toJson.compact = .ok r ↔ ∀ x ∈ r.doubles, Json.ReadsBack x)) ∧
      ∀ text q, parse text = .ok q →
        (parse q.toJson.compact = .ok q ↔ ∀ x ∈ q.doubles, Json.ReadsBack x) := by
  intro r
  have built : r = b.reply.extend fields := answer_build b.reply fields s
  clear_value r
  subst built
  have untagged := untagged_extend b.untagged_reply fields
  refine ⟨(kind_extend _ _).trans b.kind_reply, ?_, ?_, ?_, parse_compact_eq_iff untagged, ?_⟩
  · intro name
    by_cases reserved : name = kindField
    · rw [if_pos reserved, reserved]
      exact untagged
    · rw [if_neg reserved, get?_extend _ _ reserved]
  · intro q kind same
    rw [ext_get? kind same]
  · exact fun fits fieldsStorable => storable_extend (Base.storable_reply fits) fieldsStorable
  · intro text q accepted
    obtain ⟨tagless, storable⟩ := of_parse accepted
    exact parse_compact_eq_iff tagless storable

def twoAndAHalf : Binary64 :=
  .finite false ⟨4612811918334230528, by decide⟩

def nestedFields : List (String × Json) :=
  [("count", .int 3), ("type", .text "failed"),
    ("nested", .array [.number twoAndAHalf, .object [("a", .text "\"\n"), ("b", .null)]]),
    ("count", .int 4)]

theorem reply_survives_wire_nestedFields :
    let r := (Action.run (Tally.build (Base.help "Commands").reply nestedFields) .empty).answer
    (Base.help "Commands").Fits ∧
      (∀ field ∈ nestedFields, Json.Storable (Json.maxDepth - 1) field.2) ∧
      (∀ x ∈ r.doubles, Json.ReadsBack x) ∧ r.doubles.length = 1 ∧ r.kind = "help" ∧
      r.get? "type" = none ∧ r.get? "count" = some (.int 4) ∧
      parse r.toJson.compact = .ok r := by
  intro r
  have fits : (Base.help "Commands").Fits := trivial
  have fieldsStorable : ∀ field ∈ nestedFields, Json.Storable (Json.maxDepth - 1) field.2 := by
    have small : ∀ n : Nat, n < 5 → Json.Fits n := by
      intro n less
      have low : Int64.minValue.toInt ≤ 0 := by decide
      have high : (5 : Int) < (UInt64.size : Nat) := by decide
      exact ⟨by omega, by omega⟩
    have ascending : ([("a", Json.text "\"\n"), ("b", .null)]).Pairwise fun a b => a.1 < b.1 := by
      decide
    have object : Json.Storable 125 (.object [("a", .text "\"\n"), ("b", .null)]) :=
      ⟨ascending, List.forall_mem_cons.mpr ⟨trivial, List.forall_mem_singleton.mpr trivial⟩⟩
    have array : Json.Storable 126 (.array [.number twoAndAHalf,
        .object [("a", .text "\"\n"), ("b", .null)]]) :=
      List.forall_mem_cons.mpr ⟨rfl, List.forall_mem_singleton.mpr object⟩
    exact List.forall_mem_cons.mpr ⟨small 3 (by decide), List.forall_mem_cons.mpr ⟨trivial,
      List.forall_mem_cons.mpr ⟨array, List.forall_mem_singleton.mpr (small 4 (by decide))⟩⟩⟩
  have readBack : ∀ x ∈ r.doubles, Json.ReadsBack x := Json.readsBack_of_all (by decide +kernel)
  obtain ⟨kind, fields, -, storable, parsed, -⟩ :=
    reply_survives_wire (.help "Commands") nestedFields .empty
  exact ⟨fits, fieldsStorable, readBack, by decide +kernel, kind, fields "type",
    (fields "count").trans (by decide +kernel),
    (parsed (storable fits fieldsStorable)).mpr readBack⟩

end Reply

end ProfileShell
