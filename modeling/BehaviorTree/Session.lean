import BehaviorTree.Debouncer
import BehaviorTree.Graph.Operation
import BehaviorTree.History
import BehaviorTree.Lua.Script
import BehaviorTree.Settings
import BehaviorTree.Slots
import BehaviorTree.Validation.Report

/-!
# Sessions

A session is one open document with all that belongs to it: the graph, its history, the latest
validation and the slot that it is saved in.

A change commits the edit that waits for its quiet period, changes the graph, validates it, saves
it, and records a history entry. Edits of attributes do the same, but their entry has to wait, so
that a burst of edits becomes one entry.

A call that fails part of the way leaves behind what it has done so far; `Action` therefore keeps
the session beside the fault. The type of clock readings is a parameter.

A document with half a surrogate pair in a text is read, but the library of documents does not print
it, so it cannot be saved. An import is told with any library (`Session.importBy`), because such a
text comes in by it; the other calls are told for texts without halves.
-/

namespace BehaviorTree

/-- The readings of the two clocks during a call: the one that edits wait by, when the call begins
and when it has done its work, and the time of day. -/
structure Moment (Time : Type) where
  time : Time
  now : Timestamp
  later : Time := time
  deriving Repr

/-- An open document. -/
structure Session (Time : Type) where
  settings : Settings
  graph : Graph := {}
  history : History Snapshot
  debouncer : Debouncer Time
  report : Report := {}
  slots : Option Slots := none
  slotName : Option String := none
  created : Timestamp
  modified : Timestamp
  clipboard : Option Node := none

/-- A call on a session: it changes the session, and answers or fails. -/
abbrev Action (Time α : Type) := ExceptT Fault (StateM (Session Time)) α

namespace Session

variable {Time : Type}

/-! ### Parts of a call -/

/-- Keeps the answer of a call and what it leaves of the graph. -/
def applyOperation (operation : Operation) : Action Time Outcome := do
  let s ← get
  let (answer, g) := operation.apply s.graph
  set { s with graph := g }
  answer

/-- Validates the graph. -/
def revalidate : Action Time Unit := do
  let report ← (← get).graph.validate true
  modify fun s => { s with report := report }

/-- The document of a session. -/
def document (s : Session Time) : Document := .ofGraph s.graph s.created s.modified

/-- Saves the document with a library, if the session has a slot for it. -/
def persistBy (lib : Library) : Action Time Unit := do
  let s ← get
  match s.slots, s.slotName with
  | some slots, some name => do
    let slots ← slots.saveBy lib name s.document
    set { s with slots := some slots }
  | _, _ => pure ()

/-- Saves the document, if the session has a slot for it. -/
def persist : Action Time Unit := persistBy .plain

/-- What follows every change: the graph is validated and saved with a library. -/
def afterChangeBy (lib : Library) (m : Moment Time) : Action Time Unit := do
  revalidate
  modify fun s => { s with modified := m.now }
  persistBy lib

/-- What follows every change: the graph is validated and saved. -/
def afterChange (m : Moment Time) : Action Time Unit := afterChangeBy .plain m

/-- Records a history entry. -/
def record (label : String) : Action Time Unit :=
  modify fun s => { s with history := s.history.record ⟨label, s.graph⟩ }

/-- Records the edit that waits, due or not. -/
def flushPending : Action Time Unit := do
  let s ← get
  let (label, debouncer) := s.debouncer.flush
  set { s with debouncer := debouncer }
  if let some label := label then record label

/-- Records the edit that waits if its quiet period has passed, and tells whether it did. -/
def poll [LT Time] [DecidableLT Time] (m : Moment Time) : Action Time Bool := do
  let s ← get
  let (label, debouncer) := s.debouncer.poll m.time
  set { s with debouncer := debouncer }
  match label with
  | none => return false
  | some label => do
    record label
    return true

/-! ### Changes -/

/-- The label of the history entry of a change. -/
def changeLabel : Operation → String
  | .createNode .. => "Create node"
  | .deleteNode _ => "Delete node"
  | .connect .. => "Connect"
  | .disconnect _ => "Disconnect"
  | .reorderChildren .. => "Reorder children"
  | .updateNode .. => "Edit node"
  | .setDecorator .. => "Change decorator type"
  | .moveNode .. => "Move node"
  | .moveWithDescendants .. => "Move subtree"
  | .addParam .. => "Add param"
  | .updateParam .. => "Edit param"
  | .removeParam .. => "Remove param"
  | .addField .. => "Add blackboard field"
  | .updateField .. => "Edit blackboard field"
  | .removeField .. => "Remove blackboard field"
  | .pasteNode _ => "Paste node"
  | .clear => "Clear"

/-- A change with a history entry of its own. What the graph refuses, and what changes nothing, is
neither saved nor recorded. -/
def perform (m : Moment Time) (operation : Operation) : Action Time Outcome := do
  flushPending
  let outcome ← applyOperation operation
  if outcome.changesGraph then
    afterChange m
    record (changeLabel operation)
  return outcome

/-- An edit, whose history entry waits for the quiet period. -/
def edit [Add Time] [LT Time] [DecidableLT Time] (m : Moment Time) (operation : Operation) :
    Action Time Outcome := do
  let _ ← poll m
  let outcome ← applyOperation operation
  afterChange m
  modify fun s => { s with debouncer := s.debouncer.schedule m.later (changeLabel operation) }
  return outcome

/-- Puts a node on the clipboard. -/
def copyNode (id : Int) : Action Time Node := do
  let node ← (← get).graph.get id
  modify fun s => { s with clipboard := some node }
  return node

/-- Pastes the node on the clipboard, if there is one. -/
def pasteNode (m : Moment Time) : Action Time (Option Outcome) := do
  match (← get).clipboard with
  | none => return none
  | some node => return some (← perform m (.pasteNode node))

/-! ### History -/

/-- Goes back to a history entry, if there is one to go back to. -/
def restore (m : Moment Time) : Option Snapshot → Action Time Bool
  | none => return false
  | some snapshot => do
    modify fun s => { s with graph := snapshot.graph }
    afterChange m
    return true

/-- Moves the history pointer and restores what it points to. -/
def travel (m : Moment Time)
    (move : History Snapshot → Except Fault (Option Snapshot × History Snapshot)) :
    Action Time Bool := do
  flushPending
  let (snapshot, history) ← move (← get).history
  modify fun s => { s with history := history }
  restore m snapshot

/-- Steps back; the answer is false at the oldest entry. -/
def undo (m : Moment Time) : Action Time Bool := travel m fun h => .ok h.undo

/-- Steps forward; the answer is false at the newest entry. -/
def redo (m : Moment Time) : Action Time Bool := travel m fun h => .ok h.redo

/-- Restores any history entry. -/
def jump (m : Moment Time) (index : Int) : Action Time Bool :=
  travel m fun h => (h.jump index).map fun (snapshot, h) => (some snapshot, h)

/-- Starts the history anew with one entry. -/
def restartHistory (label : String) : Action Time Unit := do
  modify fun s => { s with history := s.history.reset }
  record label

/-! ### Export and import -/

/-- The script of the graph. -/
def exportLua (s : Session Time) : Except Fault String :=
  Lua.scriptText s.graph s.settings.functionPrefix s.settings.indent

/-- The text of the document. -/
def exportJson (s : Session Time) : String := s.document.render (some Document.indentWidth)

/-- The numbers in the log entry of a graph that has been loaded. -/
def loggedSizes (g : Graph) : List Int := [g.nodes.length, g.connections.length]

/-- Replaces the graph by that of a document, and logs its size. -/
def load (d : Document) : Action Time Unit :=
  match d.toGraph with
  | .ok g => do
    modify fun s => { s with graph := g }
    if (loggedSizes g).all Text.isWritable then pure () else throw .integerTooLong
  | .error failure => throw (.importing failure)

/-- Replaces the document by one that has been read, with a library. -/
def importBy (lib : Library) (m : Moment Time) (read : Except Fault Document) :
    Action Time Unit := do
  let d ← read
  modify fun s => { s with debouncer := s.debouncer.cancel }
  load d
  modify fun s => { s with created := d.created.getD m.now }
  afterChangeBy lib m
  restartHistory "Import"

/-- Replaces the document by one that has been read, with the standard library. -/
def importDocument (m : Moment Time) (read : Except Fault Document) : Action Time Unit :=
  importBy (.standard Json.privateHalf) m read

/-! ### Slots -/

/-- The store of the session. -/
def requireSlots : Action Time Slots := do
  match (← get).slots with
  | some slots => return slots
  | none => throw .noSlotStore

/-- Changes the store of the session. -/
def putSlots (slots : Slots) : Action Time Unit := modify fun s => { s with slots := some slots }

/-- Loads the document of a slot and stays with that slot. -/
def loadSlot (m : Moment Time) (name : String) : Action Time Unit := do
  let slots ← requireSlots
  match ← slots.load name with
  | none => throw (.unknownSlot name)
  | some d => do
    load d
    let created := d.created.getD m.now
    modify fun s => { s with
      slotName := some name
      created := created
      modified := d.modified.getD created }
    putSlots (slots.setLastUsed (some name))

/-- Turns to another slot. -/
def openSlot (m : Moment Time) (name : String) : Action Time Unit := do
  flushPending
  persist
  loadSlot m name
  revalidate
  restartHistory "Open"

/-- Starts an empty document in a new slot. -/
def newSlot (m : Moment Time) (name : String) : Action Time Unit := do
  let slots ← requireSlots
  let name ← Slots.cleanName name
  if ← slots.isTaken name then throw (.slotTaken name)
  flushPending
  persist
  modify fun s => { s with graph := .empty, slotName := some name, created := m.now }
  putSlots ((← requireSlots).setLastUsed (some name))
  afterChange m
  restartHistory "Initial"

/-- Renames a slot. -/
def renameSlot (old new : String) : Action Time Unit := do
  let slots ← requireSlots
  putSlots (← slots.rename old new)
  if (← get).slotName = some old then
    let name ← Slots.cleanName new
    modify fun s => { s with slotName := some name }

/-- Deletes a slot that is not open. -/
def deleteSlot (name : String) : Action Time Unit := do
  let slots ← requireSlots
  if (← get).slotName = some name then throw (.slotOpen name)
  let (found, slots) := slots.delete name
  putSlots slots
  if !found then throw (.unknownSlot name)

/-! ### The start of a session -/

/-- A session without a slot, before its first history entry. -/
def blank (m : Moment Time) (settings : Settings) (delay : Time) (slots : Option Slots) :
    Except Fault (Session Time) := do
  let history ← History.empty settings.historyCapacity
  return { settings, history, slots, debouncer := { delay }, created := m.now, modified := m.now }

/-- Opens the slot of a name, or makes one. -/
def enterSlot (m : Moment Time) (name : String) : Action Time Unit := do
  let slots ← requireSlots
  if ← slots.isTaken name then loadSlot m name
  else
    let name ← Slots.cleanName name
    modify fun s => { s with slotName := some name }
    putSlots (slots.setLastUsed (some name))
    persist

/-- The name of the slot that a session starts with: the given one, or the one used last. An empty
name is no name. -/
def initialSlot (slots : Option Slots) (slotName : Option String) : Option String :=
  match slots with
  | none => none
  | some slots => (slotName.or slots.lastUsed).filter fun name => !name.isEmpty

/-- What a session does first: it opens a slot if there is one to open, and records its graph. -/
def enter (m : Moment Time) (slotName : Option String) : Action Time Unit := do
  if let some name := initialSlot (← get).slots slotName then enterSlot m name
  revalidate
  record "Initial"

/-- Runs a call on a session: its answer or fault, and the session that it leaves. -/
def run {α : Type} (s : Session Time) (action : Action Time α) : Except Fault α × Session Time :=
  Id.run (StateT.run (ExceptT.run action) s)

end Session
end BehaviorTree
