import ProfileShell.Proofs.Json.Rereading
import ProfileShell.Proofs.Profile.Record

/-!
What is lost when a loaded profile is saved.

Nothing is lost but the digits of doubles: a double is read in two roundings, which may end at a
neighbour of the one that was written. A profile is therefore loaded as it was saved exactly when
the text of each of its doubles reads back to it, and then its record is a normal form: to load it
and save it again gives the same text.
-/

set_option autoImplicit false
set_option relaxedAutoImplicit false

namespace ProfileShell

namespace Profile

def doubles (p : Profile) : List Binary64 :=
  [p.characterXp, p.totalPlaytime, p.lastUpdated] ++ p.skillXp.values ++
    p.gamerules.values.flatMap Json.doubles

private theorem reread_eq_self_iff (p : Profile) :
    p.reread = p ↔ ∀ x ∈ p.doubles, x.reread = x := by
  have gamerules : p.gamerules.map Json.reread = p.gamerules ↔
      ∀ x ∈ p.gamerules.values.flatMap Json.doubles, x.reread = x := by
    rw [TextMap.map_eq_self_iff, List.forall_mem_flatMap]
    exact forall₂_congr fun v _ => Json.reread_eq_self_iff v
  have skillXp := TextMap.map_eq_self_iff Binary64.reread p.skillXp
  unfold doubles
  rw [List.forall_mem_append, List.forall_mem_append, ← skillXp, ← gamerules]
  obtain ⟨id, name, gamemode, difficulty, rules, characterXp, skills, quests, achievements,
    inventory, totalPlaytime, lastUpdated⟩ := p
  simp only [reread, Profile.mk.injEq, List.forall_mem_cons, List.not_mem_nil, false_imp_iff,
    implies_true, true_and, and_true]
  constructor
  · rintro ⟨gamerules, characterXp, skillXp, totalPlaytime, lastUpdated⟩
    exact ⟨⟨⟨characterXp, totalPlaytime, lastUpdated⟩, skillXp⟩, gamerules⟩
  · rintro ⟨⟨⟨characterXp, totalPlaytime, lastUpdated⟩, skillXp⟩, gamerules⟩
    exact ⟨gamerules, characterXp, skillXp, totalPlaytime, lastUpdated⟩

private theorem Writable.isFinite_of_mem_doubles {p : Profile} (writable : p.Writable)
    {x : Binary64} (member : x ∈ p.doubles) : x.isFinite = true := by
  rcases List.mem_append.mp member with member | member
  · rcases List.mem_append.mp member with member | member
    · simp only [List.mem_cons, List.not_mem_nil, or_false] at member
      rcases member with rfl | rfl | rfl
      · exact writable.characterXp
      · exact writable.totalPlaytime
      · exact writable.lastUpdated
    · obtain ⟨entry, listed, rfl⟩ := List.mem_map.mp member
      exact writable.skillXp entry listed
  · obtain ⟨v, listed, inside⟩ := List.mem_flatMap.mp member
    obtain ⟨entry, present, rfl⟩ := List.mem_map.mp listed
    exact Json.isFinite_of_mem_doubles (writable.gamerules entry present) inside

private theorem Writable.ofText_toText_iff {p : Profile} (writable : p.Writable) :
    ofText p.toText = .ok p ↔ ∀ x ∈ p.doubles, Json.ReadsBack x := by
  rw [ofText_toText writable, Except.ok.injEq, reread_eq_self_iff]
  refine forall₂_congr fun x member => ?_
  exact (Json.readsBack_iff (writable.isFinite_of_mem_doubles member)).symm

private theorem doubles_new (id name : String) :
    (new id name).doubles = [.zero, .zero, neverUpdated] := by
  simp [doubles, new, TextMap.values, TextMap.empty]

private theorem readsBack_zero : Json.ReadsBack .zero := by
  rw [Json.readsBack_iff rfl]
  decide +kernel

private theorem readsBack_neverUpdated : Json.ReadsBack neverUpdated := by
  rw [Json.readsBack_iff isFinite_neverUpdated]
  decide +kernel

/-- The text of a record after its profile has been loaded and saved. -/
def rewrite (text : String) : Except Failure String :=
  (ofText text).map toText

/-- A loaded profile is loaded again as it was saved exactly when the text of each of its doubles
reads back, as a new profile always is. The saved text is then a normal form. -/
theorem saved_profile_is_loaded_back :
    (∀ text p, ofText text = .ok p →
      (ofText p.toText = .ok p ↔ ∀ x ∈ p.doubles, Json.ReadsBack x)) ∧
    (∀ id name, ofText (new id name).toText = .ok (new id name)) ∧
    ∀ text p, ofText text = .ok p → (∀ x ∈ p.doubles, Json.ReadsBack x) →
      rewrite text = .ok p.toText ∧ rewrite p.toText = .ok p.toText := by
  refine ⟨?_, ?_, ?_⟩
  · intro text p accepted
    exact (writable_of_ofText accepted).ofText_toText_iff
  · intro id name
    rw [(writable_new id name).ofText_toText_iff, doubles_new]
    intro x member
    have either : x = .zero ∨ x = neverUpdated := by simpa using member
    rcases either with same | same
    · exact same ▸ readsBack_zero
    · exact same ▸ readsBack_neverUpdated
  · intro text p accepted readBack
    have saved := (writable_of_ofText accepted).ofText_toText_iff.mpr readBack
    unfold rewrite
    rw [accepted, saved]
    exact ⟨rfl, rfl⟩

def sampleRecord : String :=
  "\x7b\"name\":\"Ann\",\"id\":\"ann\",\"type\":\"player_profile\",\"character_xp\":3," ++
    "\"gamerules\":\x7b\"speed\":[1,2.5]\x7d,\"origin\":null\x7d"

theorem saved_profile_is_loaded_back_sampleRecord :
    ∃ p, ofText sampleRecord = .ok p ∧ p.doubles.length = 4 ∧
      (∀ x ∈ p.doubles, Json.ReadsBack x) ∧ ofText p.toText = .ok p ∧
      rewrite p.toText = .ok p.toText := by
  have checked : ((ofText sampleRecord).toOption.map fun p =>
      (p.doubles.length, p.doubles.all fun x => x.isFinite && x.reread == x)) =
        some (4, true) := by
    decide +kernel
  cases accepted : ofText sampleRecord with
  | error failure =>
    rw [accepted] at checked
    cases checked
  | ok p =>
    rw [accepted] at checked
    obtain ⟨length, all⟩ := Prod.mk.inj (Option.some.inj checked)
    have readBack : ∀ x ∈ p.doubles, Json.ReadsBack x := Json.readsBack_of_all all
    obtain ⟨loaded, -, rewritten⟩ := saved_profile_is_loaded_back
    exact ⟨p, rfl, length, readBack, (loaded _ p accepted).mpr readBack,
      (rewritten _ p accepted readBack).2⟩

end Profile

end ProfileShell
