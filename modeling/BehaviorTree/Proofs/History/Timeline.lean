import BehaviorTree.Proofs.History
import Mathlib.Logic.Function.Iterate

/-! # Histories as timelines

A timeline is a linear history without a bound: a list of what lies behind and one of what lies
ahead, which is forgotten when something new is recorded.  A window shows a timeline without the
entries that have been evicted from its old end, and no step leads back to these.

A history of bounded length is a window: after any calls its entries, its index and its answers are
those of the window (`shows_after`), and a jump is a number of single steps
(`exists_jump_eq_repeated`). -/

namespace BehaviorTree

/-- A call on a history. -/
inductive History.Call (α : Type) where
  | record (a : α)
  | undo
  | redo
  | jump (index : ℤ)
  | reset

variable {α : Type}

/-! ### Timelines -/

/-- A linear history without a bound: the entries up to the current one, the latest first, and
those ahead of it, the next first. -/
structure Timeline (α : Type) where
  past : List α := []
  future : List α := []

namespace Timeline

/-- Goes on with a new entry; what lay ahead is forgotten. -/
def record (t : Timeline α) (a : α) : Timeline α := ⟨a :: t.past, []⟩

/-- Steps back, unless there is no entry before the current one. -/
def back (t : Timeline α) : Timeline α :=
  match t.past with
  | a :: b :: rest => ⟨b :: rest, a :: t.future⟩
  | _ => t

/-- Steps ahead, unless there is nothing ahead. -/
def ahead (t : Timeline α) : Timeline α :=
  match t.future with
  | [] => t
  | b :: rest => ⟨b :: t.past, rest⟩

/-- All entries, oldest first. -/
def entries (t : Timeline α) : List α := t.past.reverse ++ t.future

end Timeline

/-! ### Windows -/

/-- A timeline with the number of its oldest entries that have been evicted. -/
structure Window (α : Type) extends Timeline α where
  evicted : ℕ := 0

namespace Window

/-- The entries that have not been evicted, oldest first. -/
def entries (w : Window α) : List α := w.toTimeline.entries.drop w.evicted

/-- The place of the current entry among them; minus one if there is none. -/
def index (w : Window α) : ℤ := (w.past.length : ℤ) - w.evicted - 1

/-- The current entry. -/
def current? (w : Window α) : Option α := w.past.head?

/-- Records an entry.  Only so many are evicted that the capacity is not exceeded. -/
def record (capacity : ℕ) (w : Window α) (a : α) : Window α :=
  { w.toTimeline.record a with evicted := max w.evicted (w.past.length + 1 - capacity) }

/-- A step back on the timeline. -/
def back (w : Window α) : Window α := { w with toTimeline := w.toTimeline.back }

/-- A step ahead on the timeline. -/
def ahead (w : Window α) : Window α := { w with toTimeline := w.toTimeline.ahead }

/-- What a call answers, and the window after it.  No step leads to an evicted entry. -/
def call (capacity : ℕ) (w : Window α) : History.Call α → Except Fault (Option α) × Window α
  | .record a => (.ok (some a), w.record capacity a)
  | .undo => if w.index ≤ 0 then (.ok none, w) else (.ok w.back.current?, w.back)
  | .redo => if w.future = [] then (.ok none, w) else (.ok w.ahead.current?, w.ahead)
  | .jump index =>
    if 0 ≤ index ∧ index < w.entries.length then
      let moved := back^[(w.index - index).toNat] (ahead^[(index - w.index).toNat] w)
      (.ok moved.current?, moved)
    else (.error (Fault.noHistoryEntry index).raised, w)
  | .reset => (.ok none, {})

/-- The window after some calls, at first without entries. -/
def after (capacity : ℕ) (calls : List (History.Call α)) : Window α :=
  calls.foldl (fun w call => (w.call capacity call).2) {}

/-- Nothing has been recorded, or the current entry has not been evicted. -/
def Standing (w : Window α) : Prop :=
  (w.past = [] ∧ w.future = [] ∧ w.evicted = 0) ∨ w.evicted < w.past.length

variable {w : Window α}

theorem Standing.evicted_le (h : w.Standing) : w.evicted ≤ w.past.length := by
  rcases h with ⟨hpast, -, hevicted⟩ | h
  · omega
  · omega

theorem Standing.entries_eq (h : w.Standing) :
    w.entries = w.past.reverse.drop w.evicted ++ w.future := by
  rw [entries, Timeline.entries, List.drop_append_of_le_length]
  simpa using h.evicted_le

theorem Standing.length_entries (h : w.Standing) :
    (w.entries.length : ℤ) = w.index + 1 + w.future.length := by
  have hle := h.evicted_le
  rw [h.entries_eq, index]
  simp only [List.length_append, List.length_drop, List.length_reverse]
  omega

/-- The current entry stands at the index. -/
theorem Standing.getElem?_index (h : w.Standing) (hpos : 0 ≤ w.index) :
    w.entries[w.index.toNat]? = w.current? := by
  rw [h.entries_eq]
  unfold index at hpos ⊢
  cases hpast : w.past with
  | nil =>
      rw [hpast, List.length_nil] at hpos
      omega
  | cons a past =>
      rw [hpast, List.length_cons] at hpos
      have hevicted : w.evicted ≤ past.length := by omega
      rw [List.reverse_cons, List.drop_append_of_le_length (by simpa using hevicted),
        List.append_assoc, List.getElem?_append_right (by simp; omega)]
      have hzero : ((a :: past).length - (w.evicted : ℤ) - 1).toNat -
          (past.reverse.drop w.evicted).length = 0 := by
        simp only [List.length_cons, List.length_drop, List.length_reverse]
        omega
      rw [hzero]
      simp [current?, hpast]

/-! ### Single steps -/

theorem past_ne_of_index (hpos : 0 < w.index) : ∃ a b rest, w.past = a :: b :: rest := by
  unfold index at hpos
  match hpast : w.past with
  | [] => simp [hpast] at hpos; omega
  | [a] => simp [hpast] at hpos; omega
  | a :: b :: rest => exact ⟨a, b, rest, rfl⟩

theorem standing_back (hpos : 0 < w.index) :
    w.back.Standing ∧ w.back.entries = w.entries ∧ w.back.index = w.index - 1 := by
  obtain ⟨a, b, rest, hpast⟩ := past_ne_of_index hpos
  have hback : w.back = { past := b :: rest, future := a :: w.future, evicted := w.evicted } := by
    simp [Window.back, Timeline.back, hpast]
  have hevicted : w.evicted < (b :: rest).length := by
    unfold index at hpos
    simp only [hpast, List.length_cons] at hpos ⊢
    omega
  refine ⟨Or.inr (by rw [hback]; exact hevicted), ?_, ?_⟩
  · rw [hback]
    simp [entries, Timeline.entries, hpast]
  · rw [hback]
    simp only [index, hpast, List.length_cons]
    omega

theorem Standing.ahead (h : w.Standing) (hfuture : w.future ≠ []) :
    w.ahead.Standing ∧ w.ahead.entries = w.entries ∧ w.ahead.index = w.index + 1 := by
  obtain ⟨b, rest, hrest⟩ := List.exists_cons_of_ne_nil hfuture
  have hahead : w.ahead = { past := b :: w.past, future := rest, evicted := w.evicted } := by
    simp [Window.ahead, Timeline.ahead, hrest]
  have hle := h.evicted_le
  refine ⟨Or.inr ?_, ?_, ?_⟩
  · simp only [hahead, List.length_cons]
    omega
  · rw [hahead]
    simp [entries, Timeline.entries, hrest]
  · rw [hahead]
    simp only [index, List.length_cons]
    omega

end Window

/-! ### Histories -/

namespace History

/-- What a call answers, and the history after it.  A call that fails leaves the history alone. -/
def call (h : History α) : Call α → Except Fault (Option α) × History α
  | .record a => (.ok (some a), h.record a)
  | .undo => (.ok h.undo.1, h.undo.2)
  | .redo => (.ok h.redo.1, h.redo.2)
  | .jump index =>
    match h.jump index with
    | .ok (a, moved) => (.ok (some a), moved)
    | .error fault => (.error fault, h)
  | .reset => (.ok none, h.reset)

/-- The history after some calls. -/
def after (h : History α) (calls : List (Call α)) : History α :=
  calls.foldl (fun h call => (h.call call).2) h

/-- The last answer of a number of equal moves, and the history after them. -/
def repeated (move : History α → Option α × History α) (count : ℕ) (h : History α) :
    Option α × History α :=
  (fun reached => move reached.2)^[count] (none, h)

/-- The current entry lies among the entries, or there is none, and the capacity is kept. -/
def InRange (h : History α) : Prop :=
  (h.entries = [] ∧ h.index = -1) ∨
    0 ≤ h.index ∧ h.index < h.entries.length ∧ h.entries.length ≤ h.capacity

variable {h : History α}

theorem InRange.bounds (hr : h.InRange) (hpos : 0 ≤ h.index) :
    h.index < h.entries.length := by
  rcases hr with ⟨-, hindex⟩ | hr
  · omega
  · exact hr.2.1

/-! ### Jumps as single steps -/

theorem repeated_succ (move : History α → Option α × History α) (n : ℕ) (h : History α) :
    h.repeated move (n + 1) = move (h.repeated move n).2 :=
  Function.iterate_succ_apply' _ _ _

theorem repeated_undo (hlast : h.index < h.entries.length) {n : ℕ}
    (hn : (n : ℤ) + 1 ≤ h.index) : h.repeated undo (n + 1) =
      h.pointTo (h.index - (n + 1)) := by
  induction n with
  | zero =>
      obtain ⟨e, he⟩ := h.exists_entry_of_lt (h.index - 1) (by omega) (by omega)
      rw [repeated_succ]
      simpa [repeated, pointTo, he] using undo_eq he
  | succ n ih =>
      have hbefore := ih (by push_cast at hn; omega)
      obtain ⟨e, he⟩ := h.exists_entry_of_lt (h.index - (n + 1) - 1)
        (by push_cast at hn; omega) (by omega)
      have hindex : h.index - ((n + 1 : ℕ) + 1) = h.index - (n + 1) - 1 := by
        push_cast
        omega
      rw [repeated_succ, hbefore, hindex]
      simp only [pointTo, he]
      exact undo_eq (h := { h with index := h.index - (n + 1) }) he

theorem repeated_redo (hpos : 0 ≤ h.index) {n : ℕ}
    (hn : h.index + (n + 1) < h.entries.length) : h.repeated redo (n + 1) =
      h.pointTo (h.index + (n + 1)) := by
  induction n with
  | zero =>
      obtain ⟨e, he⟩ := h.exists_entry_of_lt (h.index + 1) (by omega) (by simpa using hn)
      rw [repeated_succ]
      simpa [repeated, pointTo, he] using redo_eq hpos he
  | succ n ih =>
      have hbefore := ih (by push_cast at hn; omega)
      obtain ⟨e, he⟩ := h.exists_entry_of_lt (h.index + (n + 1) + 1)
        (by omega) (by push_cast at hn; omega)
      have hindex : h.index + ((n + 1 : ℕ) + 1) = h.index + (n + 1) + 1 := by
        push_cast
        omega
      rw [repeated_succ, hbefore, hindex]
      simp only [pointTo, he]
      exact redo_eq (h := { h with index := h.index + (n + 1) }) (by simp; omega) he

/-- **A jump is a number of single steps**: as many as the index is away. -/
theorem exists_jump_eq_repeated (hr : h.InRange) {index : ℤ} (hneg : 0 ≤ index)
    (hlt : index < h.entries.length) (hne : index ≠ h.index) : ∃ e moved,
      h.jump index = .ok (e, moved) ∧ moved.index = index ∧
      h.repeated (if index < h.index then undo else redo) (index - h.index).natAbs =
        (some e, moved) := by
  obtain ⟨e, he⟩ := h.exists_entry_of_lt index hneg hlt
  have hpos : 0 ≤ h.index := by
    rcases hr with ⟨hentries, -⟩ | hr
    · rw [hentries, List.length_nil] at hlt
      omega
    · exact hr.1
  refine ⟨e, { h with index := index }, by rw [jump, he], rfl, ?_⟩
  by_cases hback : index < h.index
  · obtain ⟨n, hn⟩ : ∃ n : ℕ, h.index = index + (n + 1) :=
      ⟨(h.index - index - 1).toNat, by omega⟩
    have hdistance : (index - h.index).natAbs = n + 1 := by omega
    have hindex : h.index - (n + 1) = index := by omega
    rw [if_pos hback, hdistance, repeated_undo (hr.bounds hpos) (by omega), hindex,
      pointTo, he]
  · obtain ⟨n, hn⟩ : ∃ n : ℕ, index = h.index + (n + 1) :=
      ⟨(index - h.index - 1).toNat, by omega⟩
    have hdistance : (index - h.index).natAbs = n + 1 := by omega
    rw [if_neg hback, hdistance, repeated_redo hpos (by omega), ← hn, pointTo, he]

theorem call_jump_of_outside {index : ℤ} (hout : ¬ (0 ≤ index ∧ index < h.entries.length)) :
    h.call (.jump index) = (.error (Fault.noHistoryEntry index).raised, h) := by
  have hnone : h.entry? index = none := by
    cases he : h.entry? index with
    | none => rfl
    | some e => exact absurd (bounds_of_entry he) hout
  simp only [call, jump, hnone]

/-! ### What a window shows -/

/-- A history has the entries and the index of a window. -/
structure Shows (h : History α) (w : Window α) : Prop where
  standing : w.Standing
  entries_eq : h.entries = w.entries
  index_eq : h.index = w.index
  length_le : h.entries.length ≤ h.capacity

variable {w : Window α}

theorem Shows.inRange (hs : h.Shows w) : h.InRange := by
  have hlength := hs.standing.length_entries
  rw [← hs.entries_eq, ← hs.index_eq] at hlength
  rcases hs.standing with ⟨hpast, hfuture, hevicted⟩ | hlt
  · refine Or.inl ⟨?_, ?_⟩
    · rw [hs.entries_eq, hs.standing.entries_eq, hpast, hfuture]
      simp
    · rw [hs.index_eq, Window.index, hpast, hevicted]
      rfl
  · have hpos : 0 ≤ h.index := by
      rw [hs.index_eq, Window.index]
      omega
    exact Or.inr ⟨hpos, by omega, hs.length_le⟩

theorem Shows.current?_eq (hs : h.Shows w) (hpos : 0 ≤ h.index) :
    h.current? = w.current? := by
  rw [current?, entry?, if_neg (by omega), hs.entries_eq, hs.index_eq]
  exact hs.standing.getElem?_index (hs.index_eq ▸ hpos)

theorem Shows.record (hs : h.Shows w) (a : α) : (h.record a).Shows (w.record h.capacity a) := by
  have hle := hs.standing.evicted_le
  have hpos := h.capacity_pos
  have hlength := hs.standing.length_entries
  -- what is kept are the entries up to the current one
  have hcount : (h.index + 1).toNat = (w.past.reverse.drop w.evicted).length := by
    rw [hs.index_eq, Window.index, List.length_drop, List.length_reverse]
    omega
  have hkept : h.entries.take (h.index + 1).toNat ++ [a] =
      (a :: w.past).reverse.drop w.evicted := by
    rw [hs.entries_eq, hs.standing.entries_eq, hcount, List.take_left, List.reverse_cons,
      List.drop_append_of_le_length (by simpa using hle)]
  have hfull : w.past.length - w.evicted ≤ h.capacity := by
    have := hs.length_le
    rw [hs.entries_eq] at this
    rw [Window.index] at hlength
    omega
  have hentries : (h.record a).entries = (w.record h.capacity a).entries := by
    simp only [History.record, hkept, Window.entries, Window.record, Timeline.entries,
      Timeline.record, List.append_nil, List.length_drop, List.length_reverse, List.length_cons]
    split_ifs with hover
    · rw [List.drop_drop, show max w.evicted (w.past.length + 1 - h.capacity) = w.evicted + 1 by
        omega]
    · rw [show max w.evicted (w.past.length + 1 - h.capacity) = w.evicted by omega]
  have hstanding : (w.record h.capacity a).Standing := by
    refine Or.inr ?_
    simp only [Window.record, Timeline.record, List.length_cons]
    omega
  refine ⟨hstanding, hentries, ?_, length_record_le h a hs.length_le⟩
  have hafter := hstanding.length_entries
  rw [index_record, hentries]
  have hnone : (w.record h.capacity a).future.length = 0 := rfl
  omega

theorem Shows.back (hs : h.Shows w) (hpos : 0 < h.index) :
    Shows { h with index := h.index - 1 } w.back := by
  obtain ⟨hstanding, hentries, hindex⟩ := Window.standing_back (hs.index_eq ▸ hpos)
  exact ⟨hstanding, hs.entries_eq.trans hentries.symm, by rw [hindex, ← hs.index_eq],
    hs.length_le⟩

theorem Shows.ahead (hs : h.Shows w) (hfuture : w.future ≠ []) :
    Shows { h with index := h.index + 1 } w.ahead := by
  obtain ⟨hstanding, hentries, hindex⟩ := hs.standing.ahead hfuture
  exact ⟨hstanding, hs.entries_eq.trans hentries.symm, by rw [hindex, ← hs.index_eq],
    hs.length_le⟩

theorem Shows.future_ne_nil_iff (hs : h.Shows w) :
    w.future ≠ [] ↔ h.index + 1 < h.entries.length := by
  have hlength := hs.standing.length_entries
  rw [← hs.entries_eq, ← hs.index_eq] at hlength
  rw [← List.length_pos_iff]
  omega

theorem Shows.backs (hs : h.Shows w) {n : ℕ} (hn : (n : ℤ) ≤ h.index) :
    Shows { h with index := h.index - n } (Window.back^[n] w) := by
  induction n with
  | zero => simpa using hs
  | succ n ih =>
      have hbefore := ih (by push_cast at hn; omega)
      have hindex : h.index - (n + 1 : ℕ) = h.index - n - 1 := by
        push_cast
        omega
      rw [Function.iterate_succ_apply', hindex]
      exact hbefore.back (by push_cast at hn ⊢; omega)

theorem Shows.aheads (hs : h.Shows w) {n : ℕ}
    (hn : n = 0 ∨ h.index + n < h.entries.length) :
    Shows { h with index := h.index + n } (Window.ahead^[n] w) := by
  induction n with
  | zero => simpa using hs
  | succ n ih =>
      have hlt : h.index + (n + 1 : ℕ) < h.entries.length := by
        rcases hn with hn | hn
        · exact absurd hn (Nat.succ_ne_zero n)
        · exact hn
      have hbefore := ih (Or.inr (by push_cast at hlt; omega))
      have hindex : h.index + (n + 1 : ℕ) = h.index + n + 1 := by
        push_cast
        omega
      rw [Function.iterate_succ_apply', hindex]
      exact hbefore.ahead (hbefore.future_ne_nil_iff.2 (by push_cast at hlt ⊢; omega))

theorem Shows.moved (hs : h.Shows w) {index : ℤ} (hneg : 0 ≤ index)
    (hlt : index < h.entries.length) : Shows { h with index := index }
      (Window.back^[(h.index - index).toNat] (Window.ahead^[(index - h.index).toNat] w)) := by
  have hahead := hs.aheads (n := (index - h.index).toNat) (by omega)
  have hback := hahead.backs (n := (h.index - index).toNat) (by simp; omega)
  have hindex : h.index + ((index - h.index).toNat : ℤ) - ((h.index - index).toNat : ℤ) = index := by
    omega
  rwa [hindex] at hback

/-- **A call on a history is that call on its window.** -/
theorem Shows.call (hs : h.Shows w) (c : Call α) : (h.call c).1 = (w.call h.capacity c).1 ∧
    (h.call c).2.Shows (w.call h.capacity c).2 ∧ (h.call c).2.capacity = h.capacity := by
  cases c with
  | record a => exact ⟨rfl, hs.record a, rfl⟩
  | undo =>
      by_cases hpos : 0 < h.index
      · have hmoved := hs.back hpos
        have hcan : h.canUndo = true := by simpa [canUndo] using hpos
        rw [Window.call, if_neg (by rw [← hs.index_eq]; omega)]
        simp only [History.call, undo, if_pos hcan, pointTo]
        exact ⟨congrArg Except.ok (hmoved.current?_eq (by simp; omega)), hmoved, trivial⟩
      · have hcan : ¬ h.canUndo = true := by simpa [canUndo] using hpos
        rw [Window.call, if_pos (by rw [← hs.index_eq]; omega)]
        simp only [History.call, undo, if_neg hcan]
        exact ⟨trivial, hs, trivial⟩
  | redo =>
      have hrange := hs.inRange
      by_cases hcan : h.canRedo = true
      · have hlt : 0 ≤ h.index ∧ h.index < h.entries.length - 1 := by simpa [canRedo] using hcan
        have hfuture := hs.future_ne_nil_iff.2 (by omega)
        have hmoved := hs.ahead hfuture
        rw [Window.call, if_neg hfuture]
        simp only [History.call, redo, if_pos hcan, pointTo]
        exact ⟨congrArg Except.ok (hmoved.current?_eq (by simp; omega)), hmoved, trivial⟩
      · have hlast : ¬ h.index + 1 < h.entries.length := by
          rcases hrange with ⟨hentries, hindex⟩ | ⟨hpos, -, -⟩
          · simp [hentries, hindex]
          · intro hlt
            refine hcan ?_
            simp only [canRedo, Bool.and_eq_true, decide_eq_true_eq]
            omega
        have hfuture : w.future = [] := not_not.1 fun hne => hlast (hs.future_ne_nil_iff.1 hne)
        rw [Window.call, if_pos hfuture]
        simp only [History.call, redo, if_neg hcan]
        exact ⟨trivial, hs, trivial⟩
  | jump index =>
      by_cases hin : 0 ≤ index ∧ index < h.entries.length
      · have hmoved := hs.moved hin.1 hin.2
        obtain ⟨e, he⟩ := h.exists_entry_of_lt index hin.1 hin.2
        have hcurrent : some e = _ := he.symm.trans (hmoved.current?_eq hin.1)
        rw [Window.call, if_pos (by rwa [← hs.entries_eq])]
        simp only [History.call, jump, he, ← hs.index_eq]
        exact ⟨congrArg Except.ok hcurrent, hmoved, trivial⟩
      · rw [call_jump_of_outside hin, Window.call, if_neg (by rwa [← hs.entries_eq])]
        exact ⟨rfl, hs, rfl⟩
  | reset => exact ⟨rfl, ⟨Or.inl ⟨rfl, rfl, rfl⟩, rfl, rfl, Nat.zero_le _⟩, rfl⟩

/-- **A history is a window**, after any calls. -/
theorem Shows.after (hs : h.Shows w) (calls : List (Call α)) :
    (h.after calls).Shows (calls.foldl (fun w c => (w.call h.capacity c).2) w) ∧
      (h.after calls).capacity = h.capacity := by
  induction calls generalizing h w with
  | nil => exact ⟨hs, rfl⟩
  | cons c calls ih =>
      obtain ⟨-, hnext, hcapacity⟩ := hs.call c
      have hrest := ih hnext
      rw [hcapacity] at hrest
      exact hrest

/-! ### Bounded histories -/

/-- What a history shares with a window: its entries, its index and its answers.  A jump to another
entry is a number of single steps, and one to no entry fails and leaves the history alone. -/
structure Linear (h : History α) (w : Window α) : Prop where
  inRange : h.InRange
  entries_eq : h.entries = w.entries
  index_eq : h.index = w.index
  answers : ∀ c, (h.call c).1 = (w.call h.capacity c).1
  jumps : ∀ index : ℤ, 0 ≤ index → index < h.entries.length → index ≠ h.index → ∃ e moved,
    h.jump index = .ok (e, moved) ∧ moved.index = index ∧
      h.repeated (if index < h.index then undo else redo) (index - h.index).natAbs = (some e, moved)
  refuses : ∀ index : ℤ, ¬ (0 ≤ index ∧ index < h.entries.length) →
    h.call (.jump index) = (.error (Fault.noHistoryEntry index).raised, h)

theorem Shows.linear (hs : h.Shows w) : h.Linear w where
  inRange := hs.inRange
  entries_eq := hs.entries_eq
  index_eq := hs.index_eq
  answers := fun c => (hs.call c).1
  jumps := fun _ hneg hlt hne => exists_jump_eq_repeated hs.inRange hneg hlt hne
  refuses := fun _ hout => call_jump_of_outside hout

/-- **A bounded history is a timeline without its evicted entries**, for every capacity from one on
and after any calls. -/
theorem linear_after {capacity : ℤ} (hpos : 1 ≤ capacity) : ∃ h : History α,
    empty capacity = .ok h ∧ ∀ calls, ((h.after calls).capacity : ℤ) = capacity ∧
      (h.after calls).Linear (Window.after capacity.toNat calls) := by
  have hnat : 0 < capacity.toNat := by omega
  refine ⟨⟨capacity.toNat, hnat, [], -1⟩, dif_pos hnat, fun calls => ?_⟩
  have hstart : Shows (⟨capacity.toNat, hnat, [], -1⟩ : History α) {} :=
    ⟨Or.inl ⟨rfl, rfl, rfl⟩, rfl, rfl, Nat.zero_le _⟩
  obtain ⟨hshows, hcapacity⟩ := hstart.after calls
  refine ⟨?_, hshows.linear⟩
  rw [hcapacity]
  exact Int.toNat_of_nonneg (by omega)

/-- Recordings at full capacity, one of them behind an entry that is not the last, and a jump. -/
def crowding : List (Call ℕ) := [.record 1, .record 2, .record 3, .undo, .record 4, .jump 0]

theorem linear_after_crowding : 1 ≤ (2 : ℤ) ∧ ∃ h : History ℕ, empty 2 = .ok h ∧
    (h.after crowding).entries = [2, 4] ∧ (h.after crowding).index = 0 ∧
      (h.after crowding).Linear (Window.after 2 crowding) := by
  obtain ⟨h, hempty, hall⟩ := @linear_after ℕ 2 (by decide)
  have hlinear := (hall crowding).2
  exact ⟨by decide, h, hempty, hlinear.entries_eq.trans (by decide),
    hlinear.index_eq.trans (by decide), hlinear⟩

end History
end BehaviorTree
