import BehaviorTree.Keyed
import Mathlib.Data.List.Dedup
import Mathlib.Data.List.Induction
import Mathlib.Data.List.Nodup
import Mathlib.Data.List.Perm.Subperm

/-! # Keyed lists that are filled item by item

Items that are put one after the other into an empty list: each key has the last item that was put
for it (`find?_filled`), and nothing is lost exactly if no two items have the same key
(`filled_eq_self_iff`).  Where keys are distinct, each item is found under its key
(`find?_of_mem`).  Putting and removing depend on the keys alone, so they carry over to what
is made of each item (`map_put_map`, `map_remove`). -/

namespace BehaviorTree.Keyed

variable {α β κ : Type} [DecidableEq κ] {key : α → κ}

/-! ### Filling a list -/

/-- The list that some items make, put one after the other. -/
def filled (key : α → κ) (items : List α) : List α :=
  items.foldl (fun others item => put key item others) []

theorem filled_concat (items : List α) (item : α) :
    filled key (items ++ [item]) = put key item (filled key items) := by
  rw [filled, List.foldl_concat]
  rfl

/-- **The last item of a key counts.** -/
theorem find?_filled (items : List α) (k : κ) :
    find? key k (filled key items) = find? key k items.reverse := by
  induction items using List.reverseRecOn with
  | nil => rfl
  | append_singleton items item ih =>
      rw [filled_concat, List.reverse_concat, find?_cons]
      split_ifs with hkey
      · rw [← hkey]
        exact find?_put_self item _
      · rw [find?_put_of_ne hkey, ih]

theorem nodup_filled (items : List α) : ((filled key items).map key).Nodup := by
  induction items using List.reverseRecOn with
  | nil => exact List.nodup_nil
  | append_singleton items item ih =>
      rw [filled_concat]
      exact nodup_map_put ih item

theorem mem_map_filled_iff {items : List α} {k : κ} :
    k ∈ (filled key items).map key ↔ k ∈ items.map key := by
  induction items using List.reverseRecOn with
  | nil => exact Iff.rfl
  | append_singleton items item ih =>
      rw [filled_concat, mem_map_put_iff, ih, List.map_append, List.mem_append, List.map_singleton,
        List.mem_singleton, or_comm]

theorem mem_of_mem_filled {items : List α} {item : α} (h : item ∈ filled key items) :
    item ∈ items := by
  induction items using List.reverseRecOn with
  | nil => exact h
  | append_singleton items last ih =>
      rw [filled_concat] at h
      rcases mem_put h with rfl | h
      · exact List.mem_concat_self
      · exact List.mem_append_left _ (ih h)

/-- **Nothing is lost** exactly if the keys are distinct. -/
theorem filled_eq_self_iff {items : List α} : filled key items = items ↔ (items.map key).Nodup := by
  constructor
  · intro h
    rw [← h]
    exact nodup_filled items
  · intro h
    induction items using List.reverseRecOn with
    | nil => rfl
    | append_singleton items item ih =>
        rw [List.map_append, List.nodup_append] at h
        obtain ⟨hitems, -, hnew⟩ := h
        have hfresh : key item ∉ items.map key := fun hmem =>
          hnew _ hmem _ List.mem_cons_self rfl
        rw [filled_concat, ih hitems, put_of_notMem hfresh]

theorem subperm_map_filled (items : List α) :
    ((filled key items).map key).Subperm (items.map key) :=
  List.subperm_of_subset (nodup_filled items) fun _ => mem_map_filled_iff.1

theorem length_filled_le (items : List α) : (filled key items).length ≤ items.length := by
  rw [← List.length_map key, ← List.length_map key]
  exact (subperm_map_filled items).length_le

/-- There are as many items as keys. -/
theorem length_filled (items : List α) :
    (filled key items).length = (items.map key).dedup.length := by
  have hperm : ((filled key items).map key).Perm (items.map key).dedup :=
    (List.perm_ext_iff_of_nodup (nodup_filled items) (List.nodup_dedup _)).2 fun k =>
      mem_map_filled_iff.trans List.mem_dedup.symm
  rw [← hperm.length_eq, List.length_map]

/-- There are as many items as were put exactly if the keys are distinct. -/
theorem length_filled_iff {items : List α} :
    (filled key items).length = items.length ↔ (items.map key).Nodup := by
  constructor
  · intro h
    have hle : (items.map key).length ≤ ((filled key items).map key).length :=
      Nat.le_of_eq (by rw [List.length_map, List.length_map, h])
    exact ((subperm_map_filled items).perm_of_length_le hle).nodup_iff.1 (nodup_filled items)
  · intro h
    rw [filled_eq_self_iff.2 h]

/-! ### Looking up -/

theorem mem_of_find? {items : List α} {k : κ} {item : α} (h : find? key k items = some item) :
    item ∈ items ∧ key item = k :=
  ⟨List.mem_of_find?_eq_some h, by simpa using List.find?_some h⟩

/-- **An item is found under its key** if the keys are distinct. -/
theorem find?_of_mem {items : List α} (h : (items.map key).Nodup) {item : α} (hmem : item ∈ items) :
    find? key (key item) items = some item := by
  cases hfind : find? key (key item) items with
  | none => exact absurd (decide_eq_true rfl) (List.find?_eq_none.1 hfind item hmem)
  | some other =>
      obtain ⟨hother, hkey⟩ := mem_of_find? hfind
      rw [List.inj_on_of_nodup_map h hother hmem hkey]

section values

variable {pairs others : List (κ × α)} {k : κ} {value : α}

theorem mem_of_value? (h : value? k pairs = some value) : (k, value) ∈ pairs := by
  obtain ⟨pair, hfind, rfl⟩ := Option.map_eq_some_iff.1 h
  obtain ⟨hmem, rfl⟩ := mem_of_find? hfind
  exact hmem

theorem value?_eq_some_iff (h : (pairs.map Prod.fst).Nodup) :
    value? k pairs = some value ↔ (k, value) ∈ pairs :=
  ⟨mem_of_value?, fun hmem => Option.map_eq_some_iff.2 ⟨_, find?_of_mem h hmem, rfl⟩⟩

/-- The order of entries with distinct keys does not matter. -/
theorem value?_perm (hperm : pairs.Perm others) (h : (others.map Prod.fst).Nodup) :
    value? k pairs = value? k others := by
  ext value
  rw [value?_eq_some_iff h, value?_eq_some_iff ((hperm.map Prod.fst).nodup_iff.2 h),
    hperm.mem_iff]

end values

/-! ### What is made of each item -/

variable {other : β → κ} {f : α → β}

theorem find?_map (hf : ∀ a, other (f a) = key a) (k : κ) (items : List α) :
    find? other k (items.map f) = (find? key k items).map f := by
  rw [find?, List.find?_map]
  simp only [Function.comp_def, hf, find?]

theorem map_put_map (hf : ∀ a, other (f a) = key a) (item : α) (items : List α) :
    (put key item items).map f = put other (f item) (items.map f) := by
  induction items with
  | nil => rfl
  | cons first rest ih =>
      rw [put, List.map_cons, put, hf, hf]
      split_ifs
      · rfl
      · rw [List.map_cons, ih]

theorem map_remove (hf : ∀ a, other (f a) = key a) (k : κ) (items : List α) :
    (remove key k items).map f = remove other k (items.map f) := by
  rw [remove, remove, List.filter_map]
  simp only [Function.comp_def, hf]

end BehaviorTree.Keyed
