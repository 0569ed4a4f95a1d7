import ProfileShell.TextMap

/-!
Maps made of lists of entries.

The entries of a map make the map again, and a map that is made of a list has no other entries than
those of the list.
-/

set_option autoImplicit false
set_option relaxedAutoImplicit false

namespace ProfileShell.TextMap

variable {α : Type}

private theorem insertEntry_of_last {key : String} {value : α} {entries : List (String × α)}
    (last : ∀ entry ∈ entries, entry.1 < key) :
    insertEntry key value entries = entries ++ [(key, value)] := by
  induction entries with
  | nil => rfl
  | cons entry entries ih =>
    obtain ⟨less, rest⟩ := List.forall_mem_cons.mp last
    have notLess : ¬key < entry.1 := fun greater =>
      String.lt_irrefl _ (String.lt_trans less greater)
    have other : key ≠ entry.1 := by
      rintro rfl
      exact String.lt_irrefl _ less
    rw [insertEntry, if_neg notLess, if_neg other, ih rest]
    rfl

theorem eq_of_entries_eq {m n : TextMap α} (same : m.entries = n.entries) : m = n := by
  obtain ⟨_, _⟩ := m
  obtain ⟨_, _⟩ := n
  cases same
  rfl

theorem ofList_entries (m : TextMap α) : ofList m.entries = m := by
  have grows : ∀ (rest : List (String × α)) (front : TextMap α),
      (front.entries ++ rest).Pairwise (fun a b => a.1 < b.1) →
      (rest.foldl (fun m entry => m.insert entry.1 entry.2) front).entries =
        front.entries ++ rest := by
    intro rest
    induction rest with
    | nil => simp
    | cons entry rest ih =>
      intro front ascending
      have last : (front.insert entry.1 entry.2).entries = front.entries ++ [entry] :=
        insertEntry_of_last fun other member =>
          (List.pairwise_append.mp ascending).2.2 other member entry List.mem_cons_self
      rw [List.foldl_cons, ih _ (by simpa [last] using ascending), last, List.append_assoc]
      rfl
  exact eq_of_entries_eq (grows m.entries empty m.ascending)

theorem mem_insert {m : TextMap α} {key : String} {value : α} {entry : String × α}
    (member : entry ∈ (m.insert key value).entries) :
    entry = (key, value) ∨ entry ∈ m.entries := by
  change entry ∈ insertEntry key value m.entries at member
  generalize m.entries = entries at member ⊢
  induction entries with
  | nil => exact Or.inl (List.mem_singleton.mp member)
  | cons head rest ih =>
    rw [insertEntry] at member
    split at member
    · exact List.mem_cons.mp member
    · split at member
      · exact (List.mem_cons.mp member).imp_right (List.mem_cons_of_mem _)
      · rcases List.mem_cons.mp member with rfl | member
        · exact Or.inr List.mem_cons_self
        · exact (ih member).imp_right (List.mem_cons_of_mem _)

theorem mem_ofList {entries : List (String × α)} {entry : String × α}
    (member : entry ∈ (ofList entries).entries) : entry ∈ entries := by
  have grows : ∀ (rest : List (String × α)) (front : TextMap α),
      entry ∈ (rest.foldl (fun m entry => m.insert entry.1 entry.2) front).entries →
      entry ∈ front.entries ∨ entry ∈ rest := by
    intro rest
    induction rest with
    | nil => exact fun front member => Or.inl member
    | cons head rest ih =>
      intro front member
      rcases ih _ member with inserted | later
      · rcases mem_insert inserted with same | earlier
        · exact Or.inr (same ▸ List.mem_cons_self)
        · exact Or.inl earlier
      · exact Or.inr (List.mem_cons_of_mem _ later)
  rcases grows entries empty member with impossible | found
  · cases impossible
  · exact found

theorem exists_of_mem_keys {m : TextMap α} {key : String} (member : key ∈ m.keys) :
    ∃ value, m.get? key = some value := by
  obtain ⟨entry, listed, rfl⟩ := List.mem_map.mp member
  have found : (m.entries.find? fun other => other.1 == entry.1).isSome = true := by
    rw [List.find?_isSome]
    exact ⟨entry, listed, beq_iff_eq.mpr rfl⟩
  obtain ⟨other, same⟩ := Option.isSome_iff_exists.mp found
  exact ⟨other.2, by unfold get?; rw [same]; rfl⟩

theorem mem_keys_of_get? {m : TextMap α} {key : String} {value : α}
    (found : m.get? key = some value) : key ∈ m.keys := by
  obtain ⟨entry, listed, -⟩ := Option.map_eq_some_iff.mp found
  have same : (entry.1 == key) = true :=
    List.find?_some (p := fun other : String × α => other.1 == key) listed
  exact List.mem_map.mpr ⟨entry, List.mem_of_find?_eq_some listed, beq_iff_eq.mp same⟩

theorem keys_ascending (m : TextMap α) : m.keys.Pairwise fun a b => a < b :=
  List.pairwise_map.mpr m.ascending

theorem nodup_keys (m : TextMap α) : m.keys.Nodup := by
  refine m.keys_ascending.imp ?_
  intro a b less same
  rw [same] at less
  exact String.lt_irrefl b less

theorem entries_map {β : Type} (f : α → β) (m : TextMap α) :
    (m.map f).entries = m.entries.map fun entry => (entry.1, f entry.2) := rfl

theorem map_same (m : TextMap α) : (m.map fun value => value) = m :=
  eq_of_entries_eq (List.map_id' m.entries)

end ProfileShell.TextMap
