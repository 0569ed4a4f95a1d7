import ProfileShell.Proofs.Binary64.Bounds
import ProfileShell.Proofs.Profile.Record

/-!
Profiles stay writable while they are played.

Playing a profile changes three doubles. The time of the last activity is a clock reading, awarded
experience is a whole number of 64 bits, and playtime grows by the time between two readings; none
of them leads out of the finite doubles.
-/

set_option autoImplicit false
set_option relaxedAutoImplicit false

namespace ProfileShell

namespace Binary64

private theorem place_zero : zero.place = some 0 := rfl

private theorem within_of_between {m : Nat} {x y : Binary64} (finite : x.isFinite = true)
    (within : Within m y) (nonnegative : zero.le x = true) (less : x.lt y = true) :
    Within m x := by
  obtain ⟨s, r, rfl⟩ := (isFinite_iff x).mp finite
  obtain ⟨t, q, rfl, bound⟩ := within
  have ranks : r.val ≤ q.val := by
    unfold le at nonnegative
    unfold lt at less
    rw [place_zero] at nonnegative
    simp only [place, decide_eq_true_eq] at nonnegative less
    cases s <;> cases t <;>
      simp only [Bool.false_eq_true, if_false, if_true] at nonnegative less <;>
      omega
  exact ⟨s, r, rfl, Nat.le_trans (Rank.scaled_mono ranks) bound⟩

end Binary64

namespace Profile

open Binary64 (Within)

variable {p : Profile}

theorem Writable.renamed (writable : p.Writable) (id name : String) :
    Writable { p with id, name } :=
  ⟨writable.gamerules, writable.characterXp, writable.skillXp, writable.totalPlaytime,
    writable.lastUpdated⟩

theorem Writable.resume (writable : p.Writable) {now : Binary64} (finite : now.isFinite = true) :
    (p.resume now).Writable :=
  ⟨writable.gamerules, writable.characterXp, writable.skillXp, writable.totalPlaytime, finite⟩

/-- The playtime up to a time below two to the power of 65 is finite. -/
theorem Writable.touch (writable : p.Writable) {now : Binary64} (within : Within 65 now) :
    (p.touch now).Writable := by
  unfold Profile.touch
  split
  · rename_i active
    rw [Bool.and_eq_true] at active
    have last : Within 65 p.lastUpdated :=
      Binary64.within_of_between writable.lastUpdated within active.1 active.2
    have elapsed : Within 66 (now - p.lastUpdated) := within.sub last (by decide)
    exact ⟨writable.gamerules, writable.characterXp, writable.skillXp,
      Binary64.isFinite_add writable.totalPlaytime elapsed, within.isFinite⟩
  · exact writable.resume within.isFinite

theorem Writable.award (writable : p.Writable) (amount : Int64) :
    Writable { p with characterXp := p.characterXp + Binary64.ofInt amount.toInt } := by
  have least := Int64.le_toInt amount
  have greatest := Int64.toInt_lt amount
  have within : Within 66 (Binary64.ofInt amount.toInt) :=
    Binary64.within_ofInt (by decide) (by omega)
  exact ⟨writable.gamerules, Binary64.isFinite_add writable.characterXp within, writable.skillXp,
    writable.totalPlaytime, writable.lastUpdated⟩

end Profile

end ProfileShell
