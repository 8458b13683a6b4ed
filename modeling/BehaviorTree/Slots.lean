import BehaviorTree.Document.Schema
import BehaviorTree.Keyed

/-!
# Slots

Documents are saved in named slots. A store knows which slot was used last. There are two kinds of
store, which differ in how slots are listed and in what is noted for a document without a time of
its last change: a store in memory notes nothing, a database notes the time at hand.

A slot keeps its document as compact text, so that loading it reads it again.

* `Slots.save`, `Slots.load`, `Slots.delete`, `Slots.rename`: the calls on slots.
* `Slots.listed`: the slots, the most recently changed first. A store in memory cannot list slots of
  which one was changed at a time without a count.
-/

namespace BehaviorTree

open BehaviorTree.Text

/-- The kinds of store. -/
inductive StoreKind where
  | memory
  | database
  deriving DecidableEq, Repr

/-- A named document, with what is listed of it. -/
structure Slot where
  name : String
  payload : String
  modified : Option Timestamp
  nodeCount : Nat
  deriving DecidableEq, Repr, Inhabited

/-- A store of named documents. Each name occurs once. -/
structure Slots where
  kind : StoreKind
  /-- The time zone of the host. -/
  zone : Zone := Timestamp.utc
  /-- The time that a database notes for documents that do not tell when they were changed. -/
  now : Timestamp
  entries : List Slot := []
  lastUsed : Option String := none

namespace Slots

/-! ### Names -/

/-- The characters that a slot name must not hold. -/
def forbidden : List Char := ['<', '>', ':', '"', '/', '\\', '|', '?', '*']

/-- The name of a slot: what is left after trimming, unless that is empty or holds a forbidden
character. -/
def cleanName (name : String) : Except Fault String :=
  let cleaned := trim name
  if cleaned.isEmpty then .error .emptySlotName
  else if cleaned.toList.any fun c => forbidden.contains c then .error (.badSlotName cleaned)
  else .ok cleaned

/-! ### Looking up -/

/-- The slot of a name. -/
def find? (s : Slots) (name : String) : Option Slot := Keyed.find? Slot.name name s.entries

/-- Whether there is a slot of a name. -/
def contains (s : Slots) (name : String) : Bool := (s.find? name).isSome

/-- The document in a slot, if there is the slot. -/
def load (s : Slots) (name : String) : Except Fault (Option Document) :=
  match s.find? name with
  | none => .ok none
  | some slot => some <$> Document.parse slot.payload

/-- The text that a database sorts by. -/
def sortText (slot : Slot) : String := (slot.modified.map Timestamp.iso).getD ""

/-- Whether a slot may stand before another in a listing. -/
def precedes (zone : Zone) (kind : StoreKind) (a b : Slot) : Bool :=
  match kind with
  | .memory =>
    (b.modified.map (Timestamp.recency zone)).getD 0 ≤
      (a.modified.map (Timestamp.recency zone)).getD 0
  | .database => sortText b < sortText a || (sortText a = sortText b && a.name ≤ b.name)

/-- Whether the time at which a slot was changed is unknown or has a count. -/
def hasCount (zone : Zone) (slot : Slot) : Bool := slot.modified.all (Timestamp.hasCount zone)

/-- The slots, the most recently changed first. A store in memory counts the times, and a database
compares their texts. -/
def listed (s : Slots) : Except Fault (List Slot) :=
  if s.kind = .memory ∧ !s.entries.all (hasCount s.zone) then .error .tooEarly
  else .ok (s.entries.mergeSort (precedes s.zone s.kind))

/-- Whether a name is taken. A store in memory looks for it among its listed slots. -/
def isTaken (s : Slots) (name : String) : Except Fault Bool :=
  match s.kind with
  | .memory => do return (← s.listed).any fun slot => slot.name = name
  | .database => .ok (s.contains name)

/-! ### Changing -/

/-- Puts a slot into a store, in the place of the one with its name or at the end. -/
def put (s : Slots) (slot : Slot) : Slots :=
  { s with entries := Keyed.put Slot.name slot s.entries }

/-- The time that is noted for a document. -/
def noted (s : Slots) (d : Document) : Option Timestamp :=
  match s.kind with
  | .memory => d.modified
  | .database => some (d.modified.getD s.now)

/-- Saves a document under a name, as the text that a library prints. -/
def saveBy (lib : Library) (s : Slots) (name : String) (d : Document) : Except Fault Slots := do
  let cleaned ← cleanName name
  let payload ← lib.render d none
  return s.put ⟨cleaned, payload, s.noted d, d.nodes.length⟩

/-- Saves a document without halves of surrogate pairs under a name. -/
def save (s : Slots) (name : String) (d : Document) : Except Fault Slots := s.saveBy .plain name d

/-- Deletes a slot and tells whether there was one. The name is no longer the one used last. -/
def delete (s : Slots) (name : String) : Bool × Slots :=
  (s.contains name, { s with
    entries := Keyed.remove Slot.name name s.entries
    lastUsed := if s.lastUsed = some name then none else s.lastUsed })

/-- Notes which slot was used last. -/
def setLastUsed (s : Slots) (name : Option String) : Slots := { s with lastUsed := name }

/-- Moves a document to another name, which must not be taken. -/
def rename (s : Slots) (old new : String) : Except Fault Slots := do
  let new ← cleanName new
  let some d ← s.load old | .error (.unknownSlot old)
  let taken ← if new = old then .ok false else s.isTaken new
  if taken then .error (.slotTaken new)
  else
    let saved ← s.save new d
    let moved := if new = old then saved else (saved.delete old).2
    return if s.lastUsed = some old then moved.setLastUsed (some new) else moved

end Slots
end BehaviorTree
