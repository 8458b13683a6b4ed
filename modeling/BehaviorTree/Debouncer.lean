/-!
# Debouncing

A burst of edits becomes one history entry: each edit schedules an entry and restarts the quiet
period, and the entry is due once the quiet period has passed. There is no timer; whoever gets
control asks with the time at hand.

The type of times is a parameter: doubles when the editor runs, exact numbers in proofs.
-/

namespace BehaviorTree

/-- An entry that waits for its quiet period to pass. -/
structure Pending (Time : Type) where
  label : String
  deadline : Time
  deriving DecidableEq, Repr

/-- The entry that waits, if there is one, and the length of the quiet period. -/
structure Debouncer (Time : Type) where
  delay : Time
  pending : Option (Pending Time) := none
  deriving Repr

namespace Debouncer

variable {Time : Type}

/-- The label of the entry that waits. -/
def label? (d : Debouncer Time) : Option String := d.pending.map (·.label)

/-- Schedules an entry in place of the one that waits, and restarts the quiet period. -/
def schedule [Add Time] (d : Debouncer Time) (now : Time) (label : String) : Debouncer Time :=
  { d with pending := some ⟨label, now + d.delay⟩ }

/-- Forgets the entry that waits. -/
def cancel (d : Debouncer Time) : Debouncer Time := { d with pending := none }

/-- Takes the entry that waits, due or not. -/
def flush (d : Debouncer Time) : Option String × Debouncer Time := (d.label?, d.cancel)

/-- Takes the entry that waits, if its quiet period has passed. -/
def poll [LT Time] [DecidableLT Time] (d : Debouncer Time) (now : Time) :
    Option String × Debouncer Time :=
  match d.pending with
  | none => (none, d)
  | some entry => if now < entry.deadline then (none, d) else d.flush

/-! ### Small lemmas -/

theorem label?_schedule [Add Time] (d : Debouncer Time) (now : Time) (label : String) :
    (d.schedule now label).label? = some label := rfl

theorem label?_flush (d : Debouncer Time) : d.flush.2.label? = none := rfl

end Debouncer
end BehaviorTree
