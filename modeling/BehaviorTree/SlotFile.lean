import BehaviorTree.Json.Reader
import BehaviorTree.Slots

/-!
# Slot files

A slot database is kept in a file as one document value: its slots in order, and the name of the
slot used last.

* `Slots.encode`: the text of a file.
* `Slots.decode?`: the database of a text, if it is one.
-/

namespace BehaviorTree
namespace Slots

/-- A slot as a document value. -/
def encodeSlot (slot : Slot) : Json :=
  .object ([("name", .text slot.name), ("payload", .text slot.payload),
      ("nodes", .number (.int slot.nodeCount))]
    ++ Json.optional "modified" (fun t => .text t.iso) slot.modified)

/-- The text of a slot file. -/
def encode (s : Slots) : String :=
  Json.render (some 1) (.object ([("slots", Json.list encodeSlot s.entries)]
    ++ Json.optional "lastUsed" .text s.lastUsed))

/-- The text under a key. -/
def textAt? (key : String) (fields : List (String × Json)) : Option String :=
  match Json.lookup? key fields with
  | some (.text s) => some s
  | _ => none

/-- Reads a slot. -/
def decodeSlot? : Json → Option Slot
  | .object fields => do
    let name ← textAt? "name" fields
    let payload ← textAt? "payload" fields
    let modified := (textAt? "modified" fields).bind fun s => (Timestamp.ofText s).toOption
    match Json.lookup? "nodes" fields with
    | some (.number (.int n)) => some ⟨name, payload, modified, n.toNat⟩
    | _ => none
  | _ => none

/-- Reads a slot file. -/
def decode? (now : Timestamp) (s : String) : Option Slots :=
  match Json.parse Json.privateHalf s with
  | .ok (.object fields) =>
    match Json.lookup? "slots" fields with
    | some (.array items) => do
      let entries ← items.mapM decodeSlot?
      some { kind := .database, now, entries, lastUsed := textAt? "lastUsed" fields }
    | _ => none
  | _ => none

end Slots
end BehaviorTree
