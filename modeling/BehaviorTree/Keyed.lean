/-!
# Keyed lists

Lists whose items are told apart by a key. The fields of an object, the slots of a store and the
entries of a table are kept this way: an item for a key that is there takes the place of the earlier
one, and any other item goes to the end, so that the keys stay in the order of their first
appearance.

* `Keyed.find?`, `Keyed.value?`: the item, or the value, of a key.
* `Keyed.put`, `Keyed.remove`: change the list at a key and nowhere else.
-/

namespace BehaviorTree.Keyed

variable {α κ : Type} [DecidableEq κ]

/-- The first item with a key. -/
def find? (key : α → κ) (k : κ) (items : List α) : Option α := items.find? fun item => key item = k

/-- Puts an item in the place of the first one with its key, or at the end. -/
def put (key : α → κ) (item : α) : List α → List α
  | [] => [item]
  | other :: rest => if key other = key item then item :: rest else other :: put key item rest

/-- Removes the items with a key. -/
def remove (key : α → κ) (k : κ) (items : List α) : List α := items.filter fun item => key item ≠ k

/-- The value of a key in a list of keys with values. -/
def value? (k : κ) (pairs : List (κ × α)) : Option α := (find? Prod.fst k pairs).map Prod.snd

/-! ### Small lemmas -/

variable {key : α → κ}

theorem find?_cons (k : κ) (item : α) (items : List α) :
    find? key k (item :: items) = if key item = k then some item else find? key k items := by
  by_cases h : key item = k <;> simp [find?, h]

theorem find?_put_self (item : α) (items : List α) :
    find? key (key item) (put key item items) = some item := by
  induction items with
  | nil => simp [put, find?]
  | cons other rest ih => by_cases h : key other = key item <;> simp [put, find?_cons, h, ih]

theorem find?_put_of_ne {k : κ} {item : α} (h : key item ≠ k) (items : List α) :
    find? key k (put key item items) = find? key k items := by
  induction items with
  | nil => simp [put, find?, h]
  | cons other rest ih =>
    by_cases ho : key other = key item
    · simp [put, find?_cons, ho, h]
    · simp [put, find?_cons, ho, ih]

/-- An item that is put is the new one or one of those before. -/
theorem mem_put {item other : α} {items : List α} (h : other ∈ put key item items) :
    other = item ∨ other ∈ items := by
  induction items with
  | nil => exact Or.inl (List.mem_singleton.1 h)
  | cons first rest ih =>
    rw [put] at h
    split at h
    · rcases List.mem_cons.1 h with rfl | h
      · exact Or.inl rfl
      · exact Or.inr (List.mem_cons_of_mem _ h)
    · rcases List.mem_cons.1 h with rfl | h
      · exact Or.inr List.mem_cons_self
      · exact (ih h).imp_right (List.mem_cons_of_mem _)

/-- An item with a new key goes to the end. -/
theorem put_of_notMem {item : α} {items : List α} (h : key item ∉ items.map key) :
    put key item items = items ++ [item] := by
  induction items with
  | nil => rfl
  | cons other rest ih =>
    rw [List.map_cons, List.mem_cons, not_or] at h
    rw [put, if_neg (Ne.symm h.1), ih h.2, List.cons_append]

theorem find?_remove_self (k : κ) (items : List α) : find? key k (remove key k items) = none := by
  simp [find?, remove]

theorem find?_remove_of_ne {k other : κ} (h : k ≠ other) (items : List α) :
    find? key k (remove key other items) = find? key k items := by
  induction items with
  | nil => rfl
  | cons item rest ih =>
    rw [find?_cons, ← ih]
    by_cases ho : key item = other
    · subst ho; simp [remove, Ne.symm h]
    · simp [remove, ho, find?_cons]

/-- The keys after an item is put: the same, or its key at the end. -/
theorem map_put (item : α) (items : List α) :
    (put key item items).map key
      = if key item ∈ items.map key then items.map key else items.map key ++ [key item] := by
  induction items with
  | nil => simp [put]
  | cons other rest ih =>
    by_cases h : key other = key item
    · simp [put, h]
    · have h' : key item ≠ key other := fun e => h e.symm
      by_cases hm : key item ∈ rest.map key <;> simp_all [put]

theorem mem_map_put_iff {k : κ} {item : α} {items : List α} :
    k ∈ (put key item items).map key ↔ k = key item ∨ k ∈ items.map key := by
  rw [map_put]
  split
  · rename_i hmem
    exact ⟨Or.inr, fun h => h.elim (fun he => he ▸ hmem) id⟩
  · rw [List.mem_append, List.mem_singleton, or_comm]

/-- Distinct keys stay distinct when an item is put. -/
theorem nodup_map_put {items : List α} (h : (items.map key).Nodup) (item : α) :
    ((put key item items).map key).Nodup := by
  rw [map_put]
  split
  · exact h
  · rename_i hnew
    refine List.nodup_append.2
      ⟨h, List.pairwise_singleton _ _, fun k hk other hother hsame => hnew ?_⟩
    rwa [← List.mem_singleton.1 hother, ← hsame]

theorem nodup_map_remove {items : List α} (h : (items.map key).Nodup) (k : κ) :
    ((remove key k items).map key).Nodup :=
  h.sublist (List.filter_sublist.map key)

end BehaviorTree.Keyed
