import BehaviorTree.Graph.Basic

/-!
# History

A linear history of bounded length with a pointer to the current entry. Recording drops what lies
after the pointer, and the oldest entry once the capacity is exceeded; undo, redo and jumps move the
pointer and answer the entry that it then points to.

The pointer is an index into the entries, and minus one as long as nothing is recorded.
-/

namespace BehaviorTree

/-- The state of a graph under a label. -/
structure Snapshot where
  label : String
  graph : Graph
  deriving DecidableEq, Repr, Inhabited

/-- A bounded history of entries, oldest first. -/
structure History (α : Type) where
  capacity : Nat
  capacity_pos : 0 < capacity
  entries : List α := []
  index : Int := -1
  deriving Repr

namespace History

variable {α : Type}

/-- The capacity that is used where none is asked for. -/
def defaultCapacity : Int := 50

/-- An empty history. The capacity has to be at least one. -/
def empty (capacity : Int) : Except Fault (History α) :=
  if h : 0 < capacity.toNat then .ok { capacity := capacity.toNat, capacity_pos := h }
  else .error (Fault.badCapacity capacity).raised

/-- The entry at an index. -/
def entry? (h : History α) (index : Int) : Option α :=
  if index < 0 then none else h.entries[index.toNat]?

/-- The entry that the pointer points to. -/
def current? (h : History α) : Option α := h.entry? h.index

/-- Whether there is an entry before the current one. -/
def canUndo (h : History α) : Bool := 0 < h.index

/-- Whether there is an entry after the current one. -/
def canRedo (h : History α) : Bool := 0 ≤ h.index && h.index < (h.entries.length : Int) - 1

/-- Adds an entry behind the current one and points to it. -/
def record (h : History α) (a : α) : History α :=
  let kept := h.entries.take (h.index + 1).toNat ++ [a]
  let entries := if h.capacity < kept.length then kept.drop 1 else kept
  { h with entries := entries, index := (entries.length : Int) - 1 }

/-- Points to another entry, which is the answer. -/
def pointTo (h : History α) (index : Int) : Option α × History α :=
  (h.entry? index, { h with index := index })

/-- Steps back; nothing happens at the oldest entry. -/
def undo (h : History α) : Option α × History α :=
  if h.canUndo then h.pointTo (h.index - 1) else (none, h)

/-- Steps forward; nothing happens at the newest entry. -/
def redo (h : History α) : Option α × History α :=
  if h.canRedo then h.pointTo (h.index + 1) else (none, h)

/-- Points to any entry. -/
def jump (h : History α) (index : Int) : Except Fault (α × History α) :=
  match h.entry? index with
  | some a => .ok (a, { h with index := index })
  | none => .error (Fault.noHistoryEntry index).raised

/-- Forgets all entries. -/
def reset (h : History α) : History α := { h with entries := [], index := -1 }

/-! ### Small lemmas -/

theorem length_record_le (h : History α) (a : α) (bound : h.entries.length ≤ h.capacity) :
    (h.record a).entries.length ≤ h.capacity := by
  have := h.capacity_pos
  simp only [record]
  split
  · simp only [List.length_drop, List.length_append, List.length_take, List.length_singleton]
    omega
  · omega

theorem index_record (h : History α) (a : α) :
    (h.record a).index = ((h.record a).entries.length : Int) - 1 := rfl

theorem reset_entries (h : History α) : h.reset.entries = [] := rfl

end History
end BehaviorTree
