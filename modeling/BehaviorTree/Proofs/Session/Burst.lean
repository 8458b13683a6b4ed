import BehaviorTree.Proofs.Session.Undo
import BehaviorTree.Proofs.Session.Visited

/-! # Bursts of edits

Edits that each come before the quiet period of the one before has passed are a burst.  During a
burst nothing is recorded; what waits after it is an entry with the label of the last edit
(`Burst.waits`).  A change with an entry of its own, and a call that moves in the history, run as
if this entry had been recorded before (`Committing.run_flushed`).  So a burst becomes one entry of
the history, and undoing it restores the graph before the burst (`burst_recorded_once`). -/

namespace BehaviorTree.Session

variable {Time α : Type} {P : Slot → Prop} {s s' s'' : Session Time} {m : Moment Time}

/-! ### Recording what waits -/

theorem pending_flushed (s : Session Time) : s.flushed.debouncer.pending = none := by
  unfold flushed
  split <;> rfl

theorem label?_of_pending {entry : Pending Time} (h : s.debouncer.pending = some entry) :
    s.debouncer.label? = some entry.label := by
  rw [Debouncer.label?, h]
  rfl

theorem flushed_of_pending {entry : Pending Time} (h : s.debouncer.pending = some entry) :
    s.flushed = { s with
      debouncer := s.debouncer.cancel
      history := s.history.record ⟨entry.label, s.graph⟩ } := by
  simp only [flushed, label?_of_pending h, recorded]

/-- A call that starts by recording what waits runs as on the session in which it is recorded. -/
theorem run_flushPending_bind (s : Session Time) (next : Unit → Action Time α) :
    s.run (flushPending >>= next) = s.flushed.run (next ()) := by
  have hflush : s.run flushPending = (.ok (), s.flushed) := yields_flushPending_iff.2 rfl
  rw [run_bind, hflush]

/-- The calls that record what waits before they do their own work. -/
inductive Committing : {α : Type} → Action Time α → Prop
  | perform (m : Moment Time) (operation : Operation) : Committing (perform m operation)
  | undo (m : Moment Time) : Committing (undo m)
  | redo (m : Moment Time) : Committing (redo m)
  | jump (m : Moment Time) (index : ℤ) : Committing (jump m index)

/-- Such a call runs as on the session in which this has been recorded. -/
theorem Committing.run_flushed {action : Action Time α} (h : Committing action)
    (s : Session Time) : s.run action = s.flushed.run action := by
  have hflushed : s.flushed.flushed = s.flushed := flushed_of_quiet s.pending_flushed
  have hbind : ∀ {β : Type} (next : Unit → Action Time β),
      s.run (flushPending >>= next) = s.flushed.run (flushPending >>= next) := by
    intro β next
    rw [run_flushPending_bind, run_flushPending_bind, hflushed]
  cases h with
  | perform m operation => exact hbind _
  | undo m => exact hbind _
  | redo m => exact hbind _
  | jump m index => exact hbind _

/-- What the work of such a call leaves of a history, in the session `t`. -/
inductive Leaves (h : History Snapshot) (t : Session Time) : {α : Type} → Action Time α → Prop
  | unchanged {m : Moment Time} {operation : Operation} (ht : t.history = h) :
      Leaves h t (perform m operation)
  | changed {m : Moment Time} {operation : Operation}
      (ht : t.history = h.record ⟨changeLabel operation, t.graph⟩) :
      Leaves h t (perform m operation)
  | undone {m : Moment Time} (ht : t.history = h.undo.2) : Leaves h t (undo m)
  | redone {m : Moment Time} (ht : t.history = h.redo.2) : Leaves h t (redo m)
  | jumped {m : Moment Time} {index : ℤ} {entry : Snapshot}
      (hjump : h.jump index = .ok (entry, t.history)) : Leaves h t (jump m index)
  | refused {m : Moment Time} {index : ℤ} {fault : Fault} (hjump : h.jump index = .error fault)
      (ht : t.history = h) : Leaves h t (jump m index)

theorem maintains_history_modify_bind {f : Session Time → Session Time} {h : History Snapshot}
    {next : PUnit → Action Time α} (hf : ∀ s, (f s).history = s.history)
    (hn : ∀ u, Maintains (fun s => s.history = h) (next u)) :
    Maintains (fun s => s.history = h) (modify f >>= next) :=
  (maintains_modify fun s hs => (hf s).trans hs).bind hn

/-- What follows a change leaves the history alone, whether it answers or fails. -/
theorem maintains_history_afterChange (m : Moment Time) (h : History Snapshot) :
    Maintains (fun s => s.history = h) (afterChange m) := by
  have hvalidate : Maintains (fun s : Session Time => s.history = h) revalidate :=
    maintains_get.bind fun s => (maintains_lift (s.graph.validate true)).bind fun _ =>
      maintains_modify fun _ hs => hs
  refine hvalidate.bind fun _ => maintains_history_modify_bind (fun _ => rfl) fun _ => ?_
  refine maintains_get_bind fun s hs => ?_
  split
  · exact maintains_lift_bind (P := fun s => s.history = h) hs fun _ _ => hs
  · exact hs

theorem leaves_perform (s : Session Time) (m : Moment Time) (operation : Operation) :
    Leaves s.flushed.history (s.run (perform m operation)).2 (perform m operation) := by
  have happly : (s.flushed.run (applyOperation operation)).2.history = s.flushed.history := rfl
  unfold perform
  rw [run_flushPending_bind, run_bind]
  cases hrun : s.flushed.run (applyOperation operation) with
  | mk answer applied =>
      rw [hrun] at happly
      cases answer with
      | error fault => exact .unchanged happly
      | ok outcome =>
          have hafter := maintains_history_afterChange m _ applied happly
          dsimp only
          split_ifs
          -- a change is recorded once it has been validated and saved
          · rw [run_bind]
            cases hrun' : applied.run (afterChange m) with
            | mk answer' after =>
                rw [hrun'] at hafter
                cases answer' with
                | error fault => exact .unchanged hafter
                | ok u => exact .changed (congrArg (History.record · _) hafter)
          · exact .unchanged happly

/-- A call that moves in the history leaves the history as the move does. -/
theorem history_travel (s : Session Time) (m : Moment Time)
    (move : History Snapshot → Except Fault (Option Snapshot × History Snapshot)) :
    (s.run (travel m move)).2.history = match move s.flushed.history with
      | .ok (_, h) => h
      | .error _ => s.flushed.history := by
  have hget : s.flushed.run get = (.ok s.flushed, s.flushed) := rfl
  unfold travel
  rw [run_flushPending_bind, run_bind, hget]
  dsimp only
  cases hmove : move s.flushed.history with
  | error fault => rfl
  | ok moved =>
      obtain ⟨snapshot, history⟩ := moved
      have hrestore : Maintains (fun t => t.history = history) (restore m snapshot) := by
        cases snapshot with
        | none => exact maintains_pure false
        | some entry =>
            refine maintains_history_modify_bind (fun _ => rfl) fun _ => ?_
            exact (maintains_history_afterChange m history).bind fun _ => maintains_pure true
      exact hrestore { s.flushed with history := history } rfl

theorem Committing.leaves {action : Action Time α} (h : Committing action) (s : Session Time) :
    Leaves s.flushed.history (s.run action).2 action := by
  cases h with
  | perform m operation => exact leaves_perform s m operation
  | undo m => exact .undone (history_travel s m _)
  | redo m => exact .redone (history_travel s m _)
  | jump m index =>
      have htravel := history_travel s m fun h =>
        (h.jump index).map fun moved => (some moved.1, moved.2)
      cases hjump : s.flushed.history.jump index with
      | error fault =>
          rw [hjump] at htravel
          exact .refused hjump htravel
      | ok moved =>
          obtain ⟨entry, history⟩ := moved
          rw [hjump] at htravel
          have hhistory : (s.run (Session.jump m index)).2.history = history := htravel
          exact .jumped (by rw [hhistory]; exact hjump)

/-! ### Polls and edits -/

theorem Yields.unique {action : Action Time α} {a b : α} (h : s.Yields action a s')
    (h' : s.Yields action b s'') : b = a ∧ s'' = s' := by
  obtain ⟨hanswer, hsession⟩ := Prod.mk.inj (h'.symm.trans h)
  exact ⟨Except.ok.inj hanswer, hsession⟩

section polls

variable [LT Time] [DecidableLT Time] {entry : Pending Time}

theorem yields_poll_of_quiet (h : s.debouncer.pending = none) : s.Yields (poll m) false s := by
  simp only [poll, yields_bind_iff, yields_get_iff, yields_set_iff, and_assoc, exists_and_left,
    exists_eq_left, exists_const, Debouncer.poll, h, yields_pure_iff, true_and]

/-- What waits is not recorded before its quiet period has passed. -/
theorem yields_poll_of_early (h : s.debouncer.pending = some entry)
    (hearly : m.time < entry.deadline) : s.Yields (poll m) false s := by
  simp only [poll, yields_bind_iff, yields_get_iff, yields_set_iff, and_assoc, exists_and_left,
    exists_eq_left, exists_const, Debouncer.poll, h, if_pos hearly, yields_pure_iff, true_and]

/-- What waits is recorded once its quiet period has passed. -/
theorem yields_poll_of_due (h : s.debouncer.pending = some entry)
    (hdue : ¬ m.time < entry.deadline) : s.Yields (poll m) true s.flushed := by
  simp only [poll, yields_bind_iff, yields_get_iff, yields_set_iff, and_assoc, exists_and_left,
    exists_eq_left, exists_const, Debouncer.poll, Debouncer.flush, h, if_neg hdue,
    label?_of_pending h, yields_record_iff, yields_pure_iff, true_and, flushed]

end polls

/-- A sound session with the given history and debouncer. -/
structure Waits (P : Slot → Prop) (s : Session Time) (history : History Snapshot)
    (debouncer : Debouncer Time) : Prop where
  sound : s.Sound P
  history_eq : s.history = history
  debouncer_eq : s.debouncer = debouncer

/-- **An edit before which nothing is recorded** leaves the history alone, and its entry waits. -/
theorem Sound.waits_edit [Slots.Stable P] [Add Time] [LT Time] [DecidableLT Time]
    (h : s.Sound P) (hm : m.now.Valid) (hpoll : s.Yields (Session.poll m) false s)
    {operation : Operation} {outcome : Outcome}
    (he : s.Yields (Session.edit m operation) outcome s') :
    s'.Waits P s.history (s.debouncer.schedule m.later (changeLabel operation)) := by
  have hsound := h.edit hm he
  simp only [Session.edit, yields_bind_iff, yields_applyOperation_iff, yields_modify_iff,
    yields_pure_iff] at he
  obtain ⟨_, before, hbefore, _, _, ⟨g, hg, rfl⟩, _, after, hafter, _, _, rfl, -, rfl⟩ := he
  obtain ⟨-, rfl⟩ := hpoll.unique hbefore
  have hs := (h.withGraph (h.editable.apply hg)).settled h.saved.bound hm hafter
  exact ⟨hsound, hs.history, by rw [hs.debouncer]⟩

/-- Undoing what has waited restores the entry that was current before. -/
theorem Sound.undo_flushed [Slots.Stable P] (h : s.Sound P) {entry : Pending Time}
    (hpending : s.debouncer.pending = some entry) {current : Snapshot}
    (hcurrent : s.history.current? = some current) (hcapacity : 2 ≤ s.history.capacity)
    (hm : m.now.Valid) :
    ∃ back, s.flushed.Yields (Session.undo m) true back ∧ back.graph = current.graph := by
  have hrecord := flushed_of_pending hpending
  have hstands : s.flushed.Stands P s.flushed.history.entries s.flushed.history.index :=
    ⟨h.flushed, s.pending_flushed, rfl, rfl⟩
  -- the entry that was current lies one step back, since two entries have room
  have hbefore : s.flushed.history.entry? (s.flushed.history.index - 1) = some current := by
    rw [hrecord, ← hcurrent]
    simpa [History.current?] using @History.entry_record _ s.history
      ⟨entry.label, s.graph⟩ (History.bounds_of_entry hcurrent).2 h.length_le 0 (by omega)
  have hindex := (History.bounds_of_entry hbefore).1
  obtain ⟨back, hundo, hstands'⟩ := hstands.undo hm (by omega)
  exact ⟨back, hundo, hstands'.graph_eq rfl hbefore⟩

/-! ### Bursts -/

section bursts

variable [Add Time] [LinearOrder Time]

/-- Edits, the first on the session `s`, that each come before the quiet period of the one before
has passed, and polls among them that come before that too.  The last edit was done at the time
`last`, and its change has the label `label`. -/
inductive Burst (s : Session Time) : Time → String → Session Time → Prop
  | first {m : Moment Time} {operation : Operation} {outcome : Outcome} {s' : Session Time}
      (hm : m.now.Valid) (hedit : s.Yields (edit m operation) outcome s') :
      Burst s m.later (changeLabel operation) s'
  | next {last : Time} {label : String} {m : Moment Time} {operation : Operation}
      {outcome : Outcome} {s' s'' : Session Time} (hburst : Burst s last label s')
      (hgap : m.time < last + s.debouncer.delay) (hm : m.now.Valid)
      (hedit : s'.Yields (edit m operation) outcome s'') :
      Burst s m.later (changeLabel operation) s''
  | poll {last : Time} {label : String} {m : Moment Time} {recorded : Bool}
      {s' s'' : Session Time} (hburst : Burst s last label s')
      (hgap : m.time < last + s.debouncer.delay) (hpoll : s'.Yields (poll m) recorded s'') :
      Burst s last label s''

variable {last : Time} {label : String}

/-- **During a burst nothing is recorded**, and the entry of the last edit waits. -/
theorem Burst.waits [Slots.Stable P] (h : s.Burst last label s') (hs : s.Sound P)
    (hquiet : s.debouncer.pending = none) : s'.Waits P s.history
      { delay := s.debouncer.delay, pending := some ⟨label, last + s.debouncer.delay⟩ } := by
  induction h with
  | first hm hedit => exact hs.waits_edit hm (yields_poll_of_quiet hquiet) hedit
  | next _ hgap hm hedit ih =>
      -- an edit polls first, but what waits has been scheduled by the edit before, and is not due
      have hpending := congrArg Debouncer.pending ih.debouncer_eq
      have hwaits := ih.sound.waits_edit hm (yields_poll_of_early hpending hgap) hedit
      rwa [ih.history_eq, ih.debouncer_eq] at hwaits
  | poll _ hgap hpoll ih =>
      have hpending := congrArg Debouncer.pending ih.debouncer_eq
      obtain ⟨-, rfl⟩ := (yields_poll_of_early hpending hgap).unique hpoll
      exact ih

/-- **A burst of edits becomes one entry of the history.**  During a burst, on a session of a run in
which no edit waits, nothing is recorded.  After it, a poll that comes when the quiet period of the
last edit has passed, records one entry, with the label of this edit and the graph that it has left;
and every other call that commits what waits, works as if this entry had been recorded before.  So
undoing, at once or after such a poll, restores the graph before the burst. -/
theorem burst_recorded_once {slots : Option Slots}
    (hclean : ∀ slots' ∈ slots, slots'.All Slots.IsClean) (hreached : Reached slots s)
    (hquiet : s.debouncer.pending = none) (hcapacity : 2 ≤ s.history.capacity)
    (hburst : s.Burst last label s') :
    s'.history = s.history ∧
      s'.flushed = { s' with
        debouncer := s'.debouncer.cancel
        history := s.history.record ⟨label, s'.graph⟩ } ∧
      (∀ m : Moment Time, last + s.debouncer.delay ≤ m.time → s'.Yields (poll m) true s'.flushed) ∧
      (∀ {α : Type} (action : Action Time α), Committing action →
        s'.run action = s'.flushed.run action ∧
          Leaves (s.history.record ⟨label, s'.graph⟩) (s'.run action).2 action) ∧
      ∀ m : Moment Time, m.now.Valid → ∃ back, s'.Yields (undo m) true back ∧
        s'.flushed.Yields (undo m) true back ∧ back.graph = s.graph := by
  have hsound := hreached.sound hclean
  have hwaits := hburst.waits hsound hquiet
  have hpending := congrArg Debouncer.pending hwaits.debouncer_eq
  have hflushed := flushed_of_pending hpending
  rw [hwaits.history_eq] at hflushed
  refine ⟨hwaits.history_eq, hflushed, fun m hdue => ?_, fun action haction => ?_, fun m hm => ?_⟩
  · exact yields_poll_of_due hpending (not_lt.2 hdue)
  · have hleaves := haction.leaves s'
    rw [hflushed] at hleaves
    exact ⟨haction.run_flushed s', hleaves⟩
  · obtain ⟨current, hcurrent, hgraph⟩ := hsound.recorded
    rw [← hwaits.history_eq] at hcurrent hcapacity
    obtain ⟨back, hundo, hback⟩ := hwaits.sound.undo_flushed hpending hcurrent hcapacity hm
    refine ⟨back, ?_, hundo, hback.trans (hgraph hquiet)⟩
    exact ((Committing.undo m).run_flushed s').trans hundo

end bursts

/-- A session with one action whose quiet period takes five ticks. -/
def patient : Session ℕ :=
  (Session.run { unentered with debouncer := { delay := 5 } } (enter epoch (some "a"))).2.after
    epoch [.perform creation]

theorem reached_patient : Reached (some emptyStore) patient :=
  have hblank : blank epoch briefSettings 5 (some emptyStore) =
    .ok { unentered with debouncer := { delay := 5 } } := rfl
  (Reached.start valid_epoch hblank (yields_of_isOk (by decide +kernel))).after valid_epoch
    (by decide +kernel)

/-- The start of 1970, with the other clock at some time. -/
def tick (time : ℕ) : Moment ℕ := { epoch with time, later := time }

theorem valid_tick (time : ℕ) : (tick time).now.Valid := valid_epoch

/-- The edit that sets the function of the action. -/
def setFunction (name : String) : Operation := .updateNode 1 [("func", name)]

/-- The function has been set at the time 1. -/
def editedOnce : Session ℕ := patient.after (tick 1) [.edit (setFunction "run")]

/-- A poll at the time 5 has come too early. -/
def polledEarly : Session ℕ := editedOnce.after (tick 5) [.poll]

/-- The function has been set again at the time 5. -/
def editedTwice : Session ℕ := polledEarly.after (tick 5) [.edit (setFunction "walk")]

theorem exists_yields_edit {m : Moment ℕ} {s : Session ℕ} {operation : Operation}
    (h : s.allYield m [.edit operation] = true) :
    ∃ outcome, s.Yields (edit m operation) outcome (s.after m [.edit operation]) := by
  rw [allYield, allYield, Bool.and_true] at h
  obtain ⟨outcome, hedit, -⟩ := yields_map_iff.1 (yields_of_isOk h)
  exact ⟨outcome, hedit⟩

theorem burst_editedTwice : patient.Burst 5 "Edit node" editedTwice := by
  obtain ⟨_, hedit⟩ : ∃ outcome, patient.Yields (edit (tick 1) (setFunction "run")) outcome
      editedOnce := exists_yields_edit (by decide +kernel)
  obtain ⟨_, hpoll, -⟩ : ∃ due, editedOnce.Yields (poll (tick 5)) due polledEarly ∧ () = () :=
    yields_map_iff.1 (yields_of_isOk (by decide +kernel))
  obtain ⟨_, hagain⟩ : ∃ outcome, polledEarly.Yields (edit (tick 5) (setFunction "walk")) outcome
      editedTwice := exists_yields_edit (by decide +kernel)
  have honce : patient.Burst 1 "Edit node" editedOnce := .first (valid_tick 1) hedit
  have hpolled : patient.Burst 1 "Edit node" polledEarly := .poll honce (by decide +kernel) hpoll
  exact .next hpolled (by decide +kernel) (valid_tick 5) hagain

theorem burst_recorded_once_editedTwice : editedTwice.graph ≠ patient.graph ∧
    editedTwice.history = patient.history ∧
    editedTwice.Yields (poll (tick 10)) true editedTwice.flushed ∧
    editedTwice.flushed.history = patient.history.record ⟨"Edit node", editedTwice.graph⟩ ∧
    ∃ back, editedTwice.Yields (undo (tick 6)) true back ∧ back.graph = patient.graph := by
  obtain ⟨hhistory, hflushed, hdue, -, hundo⟩ := burst_recorded_once all_emptyStore
    reached_patient (by decide +kernel) (by decide +kernel) burst_editedTwice
  refine ⟨by decide +kernel, hhistory, hdue (tick 10) (by decide +kernel), ?_, ?_⟩
  · rw [hflushed]
  · obtain ⟨back, hback, -, hgraph⟩ := hundo (tick 6) (valid_tick 6)
    exact ⟨back, hback, hgraph⟩

end BehaviorTree.Session
