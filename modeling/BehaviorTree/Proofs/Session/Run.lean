import BehaviorTree.Proofs.Session.Sound

/-! # Runs of a session

A run opens a session on a store of slots and makes one call after the other; all of them yield an
answer.  After each call the report is that of the graph, the current history entry is the graph
unless an edit waits, and the text of the slot is read as the document of the graph
(`parts_agree`). -/

namespace BehaviorTree.Session

/-- A call on a session. -/
inductive Call where
  | perform (operation : Operation)
  | edit (operation : Operation)
  | copyNode (id : ℤ)
  | pasteNode
  | poll
  | undo
  | redo
  | jump (index : ℤ)
  | importText (text : String)
  | importBytes (bytes : List UInt8)
  | openSlot (name : String)
  | newSlot (name : String)
  | renameSlot (old new : String)
  | deleteSlot (name : String)

variable {Time : Type} [Add Time] [LT Time] [DecidableLT Time]

/-- What a call does at a moment.  Its answer is left out. -/
def Call.action (m : Moment Time) : Call → Action Time Unit
  | perform operation => (fun _ => ()) <$> Session.perform m operation
  | edit operation => (fun _ => ()) <$> Session.edit m operation
  | copyNode id => (fun _ => ()) <$> Session.copyNode id
  | pasteNode => (fun _ => ()) <$> Session.pasteNode m
  | poll => (fun _ => ()) <$> Session.poll m
  | undo => (fun _ => ()) <$> Session.undo m
  | redo => (fun _ => ()) <$> Session.redo m
  | jump index => (fun _ => ()) <$> Session.jump m index
  | importText text => importDocument m (Document.parse text)
  | importBytes bytes => importDocument m (Document.parseBytes bytes)
  | openSlot name => Session.openSlot m name
  | newSlot name => Session.newSlot m name
  | renameSlot old new => Session.renameSlot old new
  | deleteSlot name => Session.deleteSlot name

/-- The sessions that a run on a store reaches, if it has one. -/
inductive Reached (slots : Option Slots) : Session Time → Prop
  | start {m : Moment Time} {settings : Settings} {delay : Time} {slotName : Option String}
      {s s' : Session Time} (hm : m.now.Valid) (hblank : blank m settings delay slots = .ok s)
      (henter : s.Yields (enter m slotName) () s') : Reached slots s'
  | call {m : Moment Time} {s s' : Session Time} (hs : Reached slots s) (hm : m.now.Valid)
      (call : Call) (hcall : s.Yields (call.action m) () s') : Reached slots s'

variable {P : Slot → Prop} {s s' : Session Time} {m : Moment Time}

/-- **A call that yields an answer keeps a session sound.** -/
theorem Sound.call [Slots.Stable P] (h : s.Sound P) (hm : m.now.Valid) {call : Call}
    (hcall : s.Yields (call.action m) () s') : s'.Sound P := by
  cases call with
  | perform operation =>
      obtain ⟨_, hp, -⟩ := yields_map_iff.1 hcall
      exact h.perform hm hp
  | edit operation =>
      obtain ⟨_, he, -⟩ := yields_map_iff.1 hcall
      exact h.edit hm he
  | copyNode id =>
      obtain ⟨_, hc, -⟩ := yields_map_iff.1 hcall
      exact h.copyNode hc
  | pasteNode =>
      obtain ⟨_, hp, -⟩ := yields_map_iff.1 hcall
      exact h.pasteNode hm hp
  | poll =>
      obtain ⟨_, hp, -⟩ := yields_map_iff.1 hcall
      exact h.poll hp
  | undo =>
      obtain ⟨_, hu, -⟩ := yields_map_iff.1 hcall
      exact h.undo hm hu
  | redo =>
      obtain ⟨_, hr, -⟩ := yields_map_iff.1 hcall
      exact h.redo hm hr
  | jump index =>
      obtain ⟨_, hj, -⟩ := yields_map_iff.1 hcall
      exact h.jump hm hj
  | importText text =>
      exact h.importDocument hm (fun d hd => (Document.writable_of_parse hd).1) hcall
  | importBytes bytes =>
      exact h.importDocument hm (fun d hd => (Document.writable_of_parseBytes hd).1) hcall
  | openSlot name => exact h.openSlot hm hcall
  | newSlot name => exact h.newSlot hm hcall
  | renameSlot old new => exact h.renameSlot hcall
  | deleteSlot name => exact h.deleteSlot hcall

/-- Every session of a run is sound. -/
theorem Reached.sound [Slots.Stable P] {slots : Option Slots}
    (hall : ∀ slots' ∈ slots, slots'.All P) (h : Reached slots s) : s.Sound P := by
  induction h with
  | start hm hblank henter => exact sound_enter hm hall hblank henter
  | call _ hm _ hcall ih => exact ih.call hm hcall

/-! ### Runs by computation -/

/-- The session after some calls at a moment, whatever they answer. -/
def after (s : Session Time) (m : Moment Time) (calls : List Call) : Session Time :=
  calls.foldl (fun s call => (s.run (call.action m)).2) s

/-- Whether some calls at a moment yield answers. -/
def allYield (s : Session Time) (m : Moment Time) : List Call → Bool
  | [] => true
  | call :: calls =>
    (s.run (call.action m)).1.isOk && allYield (s.run (call.action m)).2 m calls

theorem Reached.after {slots : Option Slots} (hs : Reached slots s) (hm : m.now.Valid)
    {calls : List Call} (h : s.allYield m calls = true) : Reached slots (s.after m calls) := by
  induction calls generalizing s with
  | nil => exact hs
  | cons call calls ih =>
      rw [allYield, Bool.and_eq_true] at h
      exact ih (hs.call hm call (yields_of_isOk h.1)) h.2

/-- The start of 1970, with the other clock at zero. -/
def epoch : Moment ℕ := { time := 0, now := ⟨0, some 0⟩ }

theorem valid_epoch : epoch.now.Valid := ⟨by decide, by decide, by decide⟩

/-- A store in memory that has no slots yet. -/
def emptyStore : Slots := { kind := .memory, now := epoch.now }

theorem all_emptyStore : ∀ slots ∈ some emptyStore, slots.All P := by
  rintro slots hslots slot hslot
  obtain rfl := Option.some.inj hslots
  cases hslot

/-- Settings with a history of two entries. -/
def briefSettings : Settings where
  functionPrefix := ""
  connectionStyle := .curved
  historyCapacity := 2
  historyDebounce := 1.0
  databasePath := ""
  indent := "  "

/-- A session before it has been entered. -/
def unentered : Session ℕ where
  settings := briefSettings
  history := { capacity := 2, capacity_pos := by decide }
  debouncer := { delay := 1 }
  slots := some emptyStore
  created := epoch.now
  modified := epoch.now

/-- A session that starts with the slot "a". -/
def started : Session ℕ := (unentered.run (enter epoch (some "a"))).2

theorem reached_started : Reached (some emptyStore) started :=
  have hblank : blank epoch briefSettings 1 (some emptyStore) = .ok unentered := rfl
  .start valid_epoch hblank (yields_of_isOk (by decide +kernel))

/-- The creation of an action. -/
def creation : Operation := .createNode "ACTION" (.int 3) (.int 4) "Attack"

/-- A session with one action. -/
def withAction : Session ℕ := started.after epoch [.perform creation]

theorem reached_withAction : Reached (some emptyStore) withAction :=
  reached_started.after valid_epoch (by decide +kernel)

/-! ### The parts of a session -/

/-- **The parts of a session agree after every call**: the report is that of the graph, the current
history entry is the graph unless an edit waits, and the slot is there, and if the coordinates of
the graph are finite, its text is read as a document with the graph that the document of the session
has. -/
theorem parts_agree {slots : Option Slots}
    (hclean : ∀ slots' ∈ slots, slots'.All Slots.IsClean) (h : Reached slots s) :
    s.graph.validate true = .ok s.report ∧
      (s.debouncer.pending = none →
        ∃ entry, s.history.current? = some entry ∧ entry.graph = s.graph) ∧
      ∀ name ∈ s.slotName, ∃ slots' slot, s.slots = some slots' ∧ slots'.find? name = some slot ∧
        (s.graph.Finite → ∃ d g, Document.parse slot.payload = .ok d ∧ d.toGraph = .ok g ∧
          s.document.toGraph = .ok g) := by
  have hs := h.sound hclean
  refine ⟨hs.reported, fun hpending => ?_, fun name hname => ?_⟩
  · obtain ⟨entry, hentry, hgraph⟩ := hs.recorded
    exact ⟨entry, hentry, hgraph hpending⟩
  · obtain ⟨-, slots', slot, hslots, hslot, hkeeps⟩ := hs.saved name hname
    refine ⟨slots', slot, hslots, hslot, fun hfinite => ?_⟩
    obtain ⟨d, hd, hg⟩ := hkeeps.exists_parse hfinite
    exact ⟨d, s.graph.kept, hd, hg, toGraph_ofGraph hs.editable.wellFormed s.created s.modified⟩

theorem parts_agree_withAction :
    withAction.graph.validate true =
        .ok withAction.report ∧
      (∃ entry, withAction.history.current? = some entry ∧
        entry.graph = withAction.graph) ∧
      ∃ slots slot, withAction.slots = some slots ∧
        slots.find? "a" = some slot ∧ ∃ d g, Document.parse slot.payload = .ok d ∧
          d.toGraph = .ok g ∧ withAction.document.toGraph = .ok g := by
  obtain ⟨hreport, hcurrent, hslot⟩ := parts_agree all_emptyStore reached_withAction
  obtain ⟨slots, slot, hslots, hslot, hkeeps⟩ := hslot "a" (by decide +kernel)
  refine ⟨hreport, hcurrent (by decide +kernel), slots, slot, hslots, hslot, hkeeps ?_⟩
  unfold Graph.Finite
  decide +kernel

end BehaviorTree.Session
