import SchemaPatch.Catalog.Keyed

/-!
# Well-formed keyed lists

A keyed list is well-formed if every value stands under its own name and no name stands there twice
(`Keyed.Named`). In a list that `putSorted` builds the names come in order besides (`Keyed.Sorted`).
What is found in a well-formed list is what is in it.
-/

namespace SchemaPatch.Keyed

variable {β γ : Type}

theorem find?_eq_none_iff {k : String} {l : List (String × β)} :
    find? k l = none ↔ k ∉ l.map Prod.fst := by
  induction l with
  | nil => simp [find?]
  | cons e l ih => grind [find?]

theorem get?_eq_none_iff {m : Keyed β} {k : String} : m.get? k = none ↔ k ∉ m.keys :=
  find?_eq_none_iff

theorem mem_of_get? {m : Keyed β} {k : String} {v : β} (h : m.get? k = some v) :
    (k, v) ∈ m.entries := by
  obtain ⟨l⟩ := m
  simp only [get?] at h ⊢
  induction l with
  | nil => cases h
  | cons e l ih => grind [find?]

theorem get?_of_mem {m : Keyed β} (hm : m.keys.Nodup) {e : String × β} (he : e ∈ m.entries) :
    m.get? e.1 = some e.2 := by
  obtain ⟨l⟩ := m
  simp only [get?, keys] at *
  induction l with
  | nil => cases he
  | cons d l ih =>
    obtain ⟨hd, hl⟩ := List.nodup_cons.1 hm
    rcases List.mem_cons.1 he with rfl | he
    · simp [find?]
    · have hne : d.1 ≠ e.1 := fun h => hd (h ▸ List.mem_map_of_mem he)
      rw [find?, if_neg hne, ih hl he]

theorem contains_eq_false_iff {m : Keyed β} {k : String} : m.contains k = false ↔ k ∉ m.keys := by
  rw [contains, Option.isSome_eq_false_iff, Option.isNone_iff_eq_none, get?_eq_none_iff]

/-- The names that another list does not have. -/
theorem mem_missing_iff {m : Keyed β} {m' : Keyed γ} {k : String} :
    k ∈ (m.entries.filter fun e => !m'.contains e.1).map Prod.fst ↔ k ∈ m.keys ∧ k ∉ m'.keys := by
  simp only [List.mem_map, List.mem_filter, Bool.not_eq_true', contains_eq_false_iff, keys]
  constructor
  · rintro ⟨e, ⟨he, hk⟩, rfl⟩
    exact ⟨⟨e, he, rfl⟩, hk⟩
  · rintro ⟨⟨e, he, rfl⟩, hk⟩
    exact ⟨e, ⟨he, hk⟩, rfl⟩

@[simp] theorem missingFrom_empty (m : Keyed β) : m.missingFrom (empty : Keyed γ) = m.values := by
  have hall : (m.entries.filter fun e => !(empty : Keyed γ).contains e.1) = m.entries :=
    List.filter_eq_self.2 fun _ _ => rfl
  rw [missingFrom, hall, values]

@[simp] theorem empty_missingFrom (m : Keyed γ) : (empty : Keyed β).missingFrom m = [] := rfl

theorem missingFrom_subset (m : Keyed β) (m' : Keyed γ) : m.missingFrom m' ⊆ m.values :=
  (List.filter_sublist.map Prod.snd).subset

/-! ### What is in a list after a change -/

theorem mem_put {m : Keyed β} {k : String} {v : β} {e : String × β}
    (h : e ∈ (m.put k v).entries) : e = (k, v) ∨ e ∈ m.entries := by
  obtain ⟨l⟩ := m
  simp only [put] at *
  induction l with
  | nil => simpa [putIn] using h
  | cons d l ih => grind [putIn]

theorem mem_putSorted {m : Keyed β} {k : String} {v : β} {e : String × β}
    (h : e ∈ (m.putSorted k v).entries) : e = (k, v) ∨ e ∈ m.entries := by
  obtain ⟨l⟩ := m
  simp only [putSorted] at *
  induction l with
  | nil => simpa [putSortedIn] using h
  | cons d l ih => grind [putSortedIn]

theorem mem_modify {m : Keyed β} {k : String} {f : β → β} {e : String × β}
    (h : e ∈ (m.modify k f).entries) :
    e ∈ m.entries ∨ ∃ v, (k, v) ∈ m.entries ∧ e = (k, f v) := by
  obtain ⟨l⟩ := m
  simp only [modify] at *
  induction l with
  | nil => cases h
  | cons d l ih => grind [modifyIn]

/-! ### Lists under names -/

/-- Every value stands under its own name, and no name stands there twice. -/
structure Named (name : β → String) (m : Keyed β) : Prop where
  nodup : m.keys.Nodup
  name_eq : ∀ e ∈ m.entries, name e.2 = e.1

section Named

variable {name : β → String} {m : Keyed β}

theorem Named.empty : Named name (empty : Keyed β) := ⟨List.nodup_nil, by simp [Keyed.empty]⟩

theorem Named.put (h : Named name m) {k : String} {v : β} (hv : name v = k) :
    Named name (m.put k v) := by
  constructor
  · rw [keys_put]
    split
    · exact h.nodup
    · next hk =>
      exact List.nodup_append.2 ⟨h.nodup, by simp, fun a ha b hb hab => by
        rw [List.mem_singleton] at hb
        exact hk (hb ▸ hab ▸ ha)⟩
  · intro e he
    rcases mem_put he with rfl | he
    · exact hv
    · exact h.name_eq e he

theorem Named.modify (h : Named name m) (k : String) {f : β → β} (hf : ∀ v, name (f v) = name v) :
    Named name (m.modify k f) := by
  constructor
  · rw [keys_modify]
    exact h.nodup
  · intro e he
    rcases mem_modify he with he | ⟨v, hv, rfl⟩
    · exact h.name_eq e he
    · rw [hf]
      exact h.name_eq _ hv

end Named

/-! ### Lists in order -/

/-- The names come in order. -/
def Sorted (m : Keyed β) : Prop := m.keys.Pairwise (· < ·)

theorem Sorted.nodup {m : Keyed β} (h : m.Sorted) : m.keys.Nodup := by
  refine List.Pairwise.imp ?_ h
  rintro a _ hlt rfl
  exact String.lt_irrefl a hlt

theorem Sorted.empty : Sorted (empty : Keyed β) := List.Pairwise.nil

theorem Sorted.putSorted {m : Keyed β} (h : m.Sorted) (k : String) (v : β) :
    (m.putSorted k v).Sorted := by
  obtain ⟨l⟩ := m
  simp only [Sorted, keys, Keyed.putSorted] at *
  induction l with
  | nil => simp [putSortedIn]
  | cons d l ih =>
    rw [List.map_cons, List.pairwise_cons] at h
    obtain ⟨hd, hl⟩ := h
    rw [putSortedIn]
    split
    · next hk => exact hk ▸ List.pairwise_cons.2 ⟨hd, hl⟩
    · split
      · next hne hlt =>
        refine List.pairwise_cons.2 ⟨fun a ha => ?_, List.pairwise_cons.2 ⟨hd, hl⟩⟩
        rcases List.mem_cons.1 ha with rfl | ha
        · exact hlt
        · exact String.lt_trans hlt (hd a ha)
      · next hne hge =>
        -- Neither the same nor before it, so the name comes behind.
        have hlt : d.1 < k := String.not_le.1 fun hle =>
          hne (String.le_antisymm (String.not_lt.1 hge) hle)
        refine List.pairwise_cons.2 ⟨fun a ha => ?_, ih hl⟩
        obtain ⟨e, he, rfl⟩ := List.mem_map.1 ha
        rcases mem_putSorted (m := ⟨l⟩) he with rfl | he
        · exact hlt
        · exact hd _ (List.mem_map_of_mem he)

theorem Sorted.modify {m : Keyed β} (h : m.Sorted) (k : String) (f : β → β) :
    (m.modify k f).Sorted := by
  rw [Sorted, keys_modify]
  exact h

end SchemaPatch.Keyed
