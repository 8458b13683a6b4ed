import BehaviorTree.History
import Mathlib.Data.Int.Order.Basic

/-! # Histories

What is recorded becomes the current entry (`current?_record`), and what lay some steps back lies one
more step back, unless it is the oldest entry of a full history (`entry_record`).  A history does
not show that an entry has been recorded only if it is full of entries that equal it
(`record_same_iff`).  Undo and redo answer the entry one step back or ahead. -/

namespace BehaviorTree.History

variable {α : Type} {h : History α} {a b : α}

/-! ### Entries -/

theorem mem_of_entry {index : ℤ} (he : h.entry? index = some a) : a ∈ h.entries := by
  unfold entry? at he
  split_ifs at he
  exact List.mem_of_getElem? he

theorem bounds_of_entry {index : ℤ} (he : h.entry? index = some a) :
    0 ≤ index ∧ index < h.entries.length := by
  unfold entry? at he
  split_ifs at he with hneg
  have := (List.getElem?_eq_some_iff.1 he).1
  omega

/-- What the entries are at depends on the entries alone. -/
theorem entry_congr {h h' : History α} (he : h'.entries = h.entries) (index : ℤ) :
    h'.entry? index = h.entry? index := by
  unfold entry?
  rw [he]

/-! ### Recording -/

theorem mem_of_mem_record (hb : b ∈ (h.record a).entries) : b ∈ h.entries ∨ b = a := by
  have hkept : b ∈ h.entries.take (h.index + 1).toNat ++ [a] := by
    simp only [record] at hb
    split_ifs at hb
    · exact List.mem_of_mem_drop hb
    · exact hb
  rcases List.mem_append.1 hkept with hb | hb
  · exact Or.inl (List.mem_of_mem_take hb)
  · exact Or.inr (List.mem_singleton.1 hb)

/-- What is recorded in an empty history is its only entry. -/
theorem entries_record_reset (h : History α) (a : α) : (h.reset.record a).entries = [a] := by
  have hpos := h.capacity_pos
  simp only [record, reset, List.take_nil, List.nil_append, List.length_singleton]
  rw [if_neg (by omega)]

/-- **What is recorded becomes the current entry.** -/
theorem current?_record (h : History α) (a : α) : (h.record a).current? = some a := by
  have hlast : (h.record a).entries.getLast? = some a := by
    have hpos := h.capacity_pos
    simp only [record]
    split_ifs with hfull
    · rw [List.getLast?_drop, if_neg (by omega), List.getLast?_append]
      rfl
    · rw [List.getLast?_append]
      rfl
  have hne := List.length_pos_of_mem (List.mem_of_getLast? hlast)
  rw [List.getLast?_eq_getElem?] at hlast
  rw [current?, entry?, index_record, if_neg (by omega), ← hlast]
  congr 1
  omega

/-- **What lay some steps back lies one more step back**, as long as it is not dropped. -/
theorem entry_record (a : α) (hindex : h.index < h.entries.length)
    (hle : h.entries.length ≤ h.capacity) {steps : ℕ} (hsteps : steps + 1 < h.capacity) :
    entry? (h.record a) ((h.record a).index - (steps + 1)) = h.entry? (h.index - steps) := by
  rcases lt_or_ge h.index steps with hback | hback
  · -- there is no entry so far back
    unfold entry?
    rw [index_record, if_pos, if_pos]
    · omega
    · simp only [record]
      split_ifs
      all_goals
        simp only [List.length_drop, List.length_append, List.length_take, List.length_singleton]
        omega
  · have hlength : (h.entries.take (h.index + 1).toNat ++ [a]).length = (h.index + 2).toNat := by
      simp only [List.length_append, List.length_take, List.length_singleton]
      omega
    have hget : (h.entries.take (h.index + 1).toNat ++ [a])[(h.index - steps).toNat]? =
        h.entries[(h.index - steps).toNat]? := by
      rw [List.getElem?_append_left (by rw [List.length_take]; omega),
        List.getElem?_take_of_lt (by omega)]
    unfold entry?
    rw [index_record, if_neg (c := h.index - ↑steps < 0) (by omega), ← hget]
    simp only [record]
    -- in a full history every index falls by one, and the pointer stays where it is
    split_ifs with hfull hneg hneg
    · rw [List.length_drop, hlength] at hneg
      omega
    · rw [List.length_drop, hlength, List.getElem?_drop]
      congr 1
      omega
    · rw [hlength] at hneg
      omega
    · rw [hlength]
      congr 1
      omega

theorem concat_eq_cons_iff {items : List α} :
    items ++ [a] = b :: items ↔ b = a ∧ items = List.replicate items.length a := by
  induction items generalizing b with
  | nil => simp [eq_comm]
  | cons first rest ih =>
      rw [List.cons_append, List.cons.injEq, ih, List.length_cons, List.replicate_succ,
        List.cons.injEq, eq_comm (a := first) (b := b)]
      constructor
      · rintro ⟨rfl, rfl, hrest⟩
        exact ⟨rfl, rfl, hrest⟩
      · rintro ⟨rfl, rfl, hrest⟩
        exact ⟨rfl, rfl, hrest⟩

/-- A full history of equal entries that points to the last of them. -/
structure Repeats (h : History α) (a : α) : Prop where
  entries : h.entries = List.replicate h.entries.length a
  full : h.capacity ≤ h.entries.length
  index : h.index = (h.entries.length : ℤ) - 1

/-- **Recording shows** unless the history repeats the entry. -/
theorem record_same_iff :
    (h.record a).entries = h.entries ∧ (h.record a).index = h.index ↔ h.Repeats a := by
  have hpos := h.capacity_pos
  -- with the pointer at the last entry nothing is cut off before the entry is added
  have hrecord : h.index = (h.entries.length : ℤ) - 1 → (h.record a).entries =
      if h.capacity ≤ h.entries.length then (h.entries ++ [a]).drop 1 else h.entries ++ [a] := by
    intro hindex
    have hwhole : (h.index + 1).toNat = h.entries.length := by omega
    simp only [record, hwhole, List.take_length, List.length_append, List.length_singleton,
      Nat.lt_succ_iff]
  constructor
  · rintro ⟨hentries, hindex⟩
    rw [index_record, hentries] at hindex
    have hsame := (hrecord hindex.symm).symm.trans hentries
    split_ifs at hsame with hfull
    · cases hlist : h.entries with
      | nil =>
          rw [hlist, List.length_nil] at hfull
          omega
      | cons first rest =>
          rw [hlist, List.cons_append, List.drop_one, List.tail_cons] at hsame
          obtain ⟨rfl, hrest⟩ := concat_eq_cons_iff.1 hsame
          refine ⟨?_, hfull, hindex.symm⟩
          rw [hlist, List.length_cons, List.replicate_succ, ← hrest]
    · have hlength := congrArg List.length hsame
      simp at hlength
  · rintro ⟨hentries, hfull, hindex⟩
    have hsame : (h.record a).entries = h.entries := by
      obtain ⟨n, hn⟩ : ∃ n, h.entries.length = n + 1 := ⟨h.entries.length - 1, by omega⟩
      rw [hrecord hindex, if_pos hfull, hentries, hn, ← List.replicate_succ', List.drop_replicate]
      rfl
    exact ⟨hsame, by rw [index_record, hsame, hindex]⟩

/-! ### Moving -/

theorem exists_entry_of_lt (h : History α) (index : ℤ) (hneg : 0 ≤ index)
    (hlt : index < h.entries.length) :
    ∃ e, h.entry? index = some e := by
  unfold entry?
  rw [if_neg (by omega)]
  exact ⟨_, List.getElem?_eq_getElem (by omega)⟩

theorem undo_eq {e : α} (he : h.entry? (h.index - 1) = some e) :
    h.undo = (some e, { h with index := h.index - 1 }) := by
  have := (bounds_of_entry he).1
  rw [undo, if_pos (by simp only [canUndo, decide_eq_true_eq]; omega), pointTo, he]

theorem redo_eq {e : α} (hindex : 0 ≤ h.index) (he : h.entry? (h.index + 1) = some e) :
    h.redo = (some e, { h with index := h.index + 1 }) := by
  have := (bounds_of_entry he).2
  have hcan : h.canRedo = true := by
    simp only [canRedo, Bool.and_eq_true, decide_eq_true_eq]
    omega
  rw [redo, if_pos hcan, pointTo, he]

/-- A step that a history takes: none, or to the entry that is the answer. -/
inductive Step (h : History α) : Option α → History α → Prop
  | stay : h.Step none h
  | move {index : ℤ} {e : α} (he : h.entry? index = some e) :
      h.Step (some e) { h with index := index }

theorem step_undo (hindex : h.index < h.entries.length) : h.Step h.undo.1 h.undo.2 := by
  by_cases hcan : h.canUndo = true
  · have hpos : 0 < h.index := by simpa [canUndo] using hcan
    obtain ⟨e, he⟩ := h.exists_entry_of_lt (h.index - 1) (by omega) (by omega)
    rw [undo_eq he]
    exact .move he
  · rw [undo, if_neg hcan]
    exact .stay

theorem step_redo : h.Step h.redo.1 h.redo.2 := by
  by_cases hcan : h.canRedo = true
  · have hindex : 0 ≤ h.index ∧ h.index < h.entries.length - 1 := by simpa [canRedo] using hcan
    obtain ⟨e, he⟩ := h.exists_entry_of_lt (h.index + 1) (by omega) (by omega)
    rw [redo_eq hindex.1 he]
    exact .move he
  · rw [redo, if_neg hcan]
    exact .stay

theorem step_jump {index : ℤ} {e : α} {h' : History α} (hj : h.jump index = .ok (e, h')) :
    h.Step (some e) h' := by
  unfold jump at hj
  cases he : h.entry? index with
  | none =>
      rw [he] at hj
      cases hj
  | some e' =>
      rw [he] at hj
      obtain ⟨rfl, rfl⟩ := Prod.mk.inj (Except.ok.inj hj)
      exact .move he

end BehaviorTree.History
