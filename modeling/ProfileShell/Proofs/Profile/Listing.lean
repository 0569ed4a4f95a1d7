import ProfileShell.Proofs.Profile.Loading
import ProfileShell.Proofs.Profile.Renaming
import ProfileShell.Proofs.Record.Overwriting

/-!
The listing is the readable part of a store.

Whatever records a store holds and whichever of them cannot be read, the listing reports those that
are loaded, once each and in ascending order of the identifiers of the records. A profile is loaded
under the identifier of its record, also from the copy of another one, so to save it changes that
record and no other.
-/

set_option autoImplicit false
set_option relaxedAutoImplicit false

namespace ProfileShell.Profile

open ProfileShell.Task (Ensures)
open DirectoryStore (ChangedOnly)
open Record (IsExtension)
open RecordStore (Browsable Truthful recordAt)

private theorem ascending_mergeSort {ids : List String} (distinct : ids.Nodup) :
    (ids.mergeSort fun a b => decide (a ≤ b)).Pairwise fun a b => a < b := by
  have sorted := pairwise_le_mergeSort ids
  have once : (ids.mergeSort fun a b => decide (a ≤ b)).Nodup :=
    (List.mergeSort_perm ids _).nodup_iff.mpr distinct
  refine (sorted.and once).imp ?_
  intro a b both
  obtain ⟨less, different⟩ := both
  by_contra above
  exact different (String.le_antisymm less (String.not_lt.mp above))

variable {σ : Type} [RecordStore σ] {s : σ} {ids : List String}

/-- The summaries of the profiles that are loaded under some identifiers of a store. -/
structure Lists (s : σ) (ids : List String) (summaries : List ProfileSummary) : Prop where
  ascending : (summaries.map ProfileSummary.id).Pairwise fun a b => a < b
  mem_iff : ∀ summary, summary ∈ summaries ↔
    summary.id ∈ ids ∧ ∃ p, loaded s summary.id = .ok p ∧ p.name = summary.name

private theorem lists_filterMap_summary? (distinct : ids.Nodup) :
    Lists s ids ((ids.mergeSort fun a b => decide (a ≤ b)).filterMap (summary? s)) := by
  constructor
  · rw [map_id_filterMap_summary?]
    exact (ascending_mergeSort distinct).filter _
  · intro summary
    rw [List.mem_filterMap]
    constructor
    · intro listed
      obtain ⟨id, member, found⟩ := listed
      obtain ⟨rfl, readable⟩ := summary?_eq_some_iff.mp found
      exact ⟨List.mem_mergeSort.mp member, readable⟩
    · intro readable
      obtain ⟨member, loads⟩ := readable
      exact ⟨summary.id, List.mem_mergeSort.mpr member, summary?_eq_some_iff.mpr ⟨rfl, loads⟩⟩

private theorem save_eq_write {id : String} {p q : Profile} (found : loaded s id = .ok p)
    (same : q.id = p.id) : (save q : Task σ Unit) = RecordStore.write id q.toText := by
  rw [save, same, id_eq_of_loaded found]

/-- A listing reports the profiles that are loaded under the listed identifiers, in ascending order.
Every profile is loaded under the identifier of its record, and to save it afterwards is to write
this record. So in a store that answers the truth no other record changes, and in a directory
nothing does but the file of the record. -/
theorem listing_is_readable_part (s : σ) :
    (Browsable s → ∀ ids,
      ((RecordStore.identifiers : Task σ (List String)).runOn s).answer = .ok ids →
      (list : Task σ (List ProfileSummary)).Ensures s fun answer t =>
        t = s ∧ ∃ summaries, answer = .ok summaries ∧ Lists s ids summaries) ∧
    (∀ id p, loaded s id = .ok p → p.id = id ∧
      ∀ q : Profile, q.id = p.id → (save q : Task σ Unit) = RecordStore.write id q.toText) ∧
    (∀ view : σ → String → Option String, Truthful view →
      ∀ id p q, loaded s id = .ok p → q.id = p.id →
        (save q : Task σ Unit).Ensures s fun _ t =>
          ∀ other, other ≠ id → view t other = view s other) ∧
    ∀ (d : DirectoryStore) id p q, loaded d id = .ok p → q.id = p.id →
      (save q : Task DirectoryStore Unit).Ensures d fun _ after =>
        ChangedOnly id d after ∧ (IsExtension d.extension →
          ∀ other, other ≠ id → recordAt after other = recordAt d other) := by
  refine ⟨?_, ?_, ?_, ?_⟩
  · intro browsable ids listed
    refine (list_ensures_of_browsable browsable listed).mono ?_
    intro answer t ended
    exact ⟨ended.1, _, ended.2, lists_filterMap_summary? (browsable.distinct ids listed)⟩
  · intro id p found
    exact ⟨id_eq_of_loaded found, fun q same => save_eq_write found same⟩
  · intro view truthful id p q found same
    have own : q.id = id := same.trans (id_eq_of_loaded found)
    refine (save_truthful truthful s q).mono ?_
    intro answer t committed other different
    rw [own] at committed
    cases answer with
    | error e => exact congrFun committed other
    | ok _ =>
      have updated : view t = Function.update (view s) id (some q.toText) := committed
      rw [updated, Function.update_of_ne different]
  · intro d id p q found same
    obtain ⟨text, -, read, -, -⟩ := loaded_eq_ok_iff.mp found
    rw [save_eq_write found same]
    refine (DirectoryStore.write_ensures_changedOnly read q.toText).mono ?_
    intro answer after changed
    refine ⟨changed, ?_⟩
    intro legal other different
    apply changed.others
    intro shares
    exact different (DirectoryStore.eq_of_sharesFile read legal shares)

def beside : DirectoryStore :=
  let hero := "\x7b\"type\":\"player_profile\",\"id\":\"hero\",\"name\":\"Hero\"\x7d"
  ⟨⟨.folder [("saves", .folder [("hero.json", .file hero.toUTF8), ("copy.json", .file hero.toUTF8),
    ("broken.json", .file "\x7b".toUTF8), ("bytes.json", .file ⟨#[255]⟩)])], []⟩,
    .ofText "saves", "json"⟩

theorem listing_is_readable_part_beside :
    Browsable beside ∧
      (list : Task DirectoryStore (List ProfileSummary)).Ensures beside (fun answer t =>
        t = beside ∧ ∃ summaries, answer = .ok summaries ∧ ⟨"copy", "Hero"⟩ ∈ summaries ∧
          ∀ summary ∈ summaries, summary.id ≠ "broken" ∧ summary.id ≠ "bytes") ∧
      ∃ p, loaded beside "copy" = .ok p ∧ p.id = "copy" ∧
        (save p : Task DirectoryStore Unit).Ensures beside fun _ after =>
          recordAt after "hero" = recordAt beside "hero" := by
  have names : beside.files.listFiles beside.folder =
      .ok ["hero.json", "copy.json", "broken.json", "bytes.json"] := by
    decide +kernel
  have browsable : Browsable beside := by
    apply DirectoryStore.browsable
    intro others same
    cases names.symm.trans same
    decide
  have listed :
      ((RecordStore.identifiers : Task DirectoryStore (List String)).runOn beside).answer =
        .ok ["hero", "copy", "broken", "bytes"] := by
    decide +kernel
  have content : (loaded beside "copy").toOption.map (fun p => (p.id, p.name)) =
      some ("copy", "Hero") := by
    decide +kernel
  have refused : (loaded beside "broken").toOption = none ∧
      (loaded beside "bytes").toOption = none := by
    decide +kernel
  obtain ⟨listing, -, -, saving⟩ := listing_is_readable_part beside
  cases found : loaded beside "copy" with
  | error e =>
    rw [found] at content
    cases content
  | ok p =>
    rw [found] at content
    obtain ⟨own, name⟩ := Prod.mk.inj (Option.some.inj content)
    refine ⟨browsable, (listing browsable _ listed).mono ?_, p, rfl, own, ?_⟩
    · intro answer t ended
      obtain ⟨same, summaries, answered, lists⟩ := ended
      refine ⟨same, summaries, answered, ?_, ?_⟩
      · exact (lists.mem_iff _).mpr ⟨by decide, p, found, name⟩
      · intro summary member
        obtain ⟨-, q, loads, -⟩ := (lists.mem_iff summary).mp member
        constructor
        · intro broken
          rw [← broken, loads] at refused
          cases refused.1
        · intro bytes
          rw [← bytes, loads] at refused
          cases refused.2
    · refine (saving beside "copy" p p found rfl).mono ?_
      intro answer after changed
      exact changed.2 ⟨by decide, by decide⟩ "hero" (by decide)

end ProfileShell.Profile
