import BehaviorTree.Proofs.Session.Burst

/-! # Calls that the graph refuses

A connection or an exchange of children may be refused, and a refusal should change nothing.  It
leaves the graph, the report and the slots alone.  But an edit that waits has been recorded before
the graph is asked (`run_perform_of_refuses`), and then the history is another one: it has one more
entry, and what lay ahead of the pointer is gone.  So a session is left undisturbed exactly if no
edit waits, or if its history cannot show the entry (`undisturbed_iff`). -/

namespace BehaviorTree

namespace Graph

/-- A graph refuses an operation: it rejects the connection, or the exchange of children. -/
inductive Refuses (g : Graph) : Operation → Prop
  | connect {source target : ℤ} {fromPoint toPoint : String} {error : EditorError}
      (h : (g.connect source target fromPoint toPoint).1 = .rejected error) :
      Refuses g (.connect source target fromPoint toPoint)
  | reorder {parent a b : ℤ} {error : EditorError}
      (h : (g.reorderChildren parent a b).1 = .rejected error) :
      Refuses g (.reorderChildren parent a b)

variable {g : Graph} {operation : Operation}

theorem refuses_of_checkConnect {source target : ℤ} {rejection : Rejection}
    (h : g.checkConnect source target = some rejection) (fromPoint toPoint : String) :
    g.Refuses (.connect source target fromPoint toPoint) := by
  have hrejected : (g.connect source target fromPoint toPoint).1 = .rejected rejection.error := by
    rw [connect_rejected h]
  exact .connect hrejected

/-- What is refused leaves the graph as it is, and its outcome stands for no change. -/
theorem Refuses.carryOut (h : g.Refuses operation) :
    ∃ outcome, operation.carryOut g = (.ok outcome, g) ∧ outcome.changesGraph = false := by
  cases h with
  | @connect source target fromPoint toPoint error h =>
      have hsame : g.connect source target fromPoint toPoint = (.rejected error, g) := by
        cases hcheck : g.checkConnect source target with
        | some rejection =>
            rw [connect_rejected hcheck] at h ⊢
            rw [← h]
        | none =>
            rw [Graph.connect, hcheck] at h
            cases h
      exact ⟨.connected (.rejected error), by rw [Operation.carryOut, hsame], rfl⟩
  | @reorder parent a b error h =>
      have hsame : g.reorderChildren parent a b = (.rejected error, g) := by
        simp only [reorderChildren] at h ⊢
        split_ifs at h ⊢
        · rw [← h]
        · rw [← h]
      exact ⟨.reordered (.rejected error), by rw [Operation.carryOut, hsame], rfl⟩

end Graph

namespace Session

open BehaviorTree.Graph

variable {Time : Type} {s : Session Time} {operation : Operation}

/-- A session that shows the graph, the report, the slots and the history of another. -/
structure Undisturbed (s s' : Session Time) : Prop where
  graph : s'.graph = s.graph
  report : s'.report = s.report
  slots : s'.slots = s.slots
  slotName : s'.slotName = s.slotName
  entries : s'.history.entries = s.history.entries
  index : s'.history.index = s.history.index

/-- **A call that is refused** records the edit that waits, and does nothing else. -/
theorem run_perform_of_refuses (h : s.graph.Refuses operation) (m : Moment Time) :
    (s.run (perform m operation)).2 = s.flushed := by
  rw [← s.flushed_graph] at h
  obtain ⟨outcome, hcarried, hchanges⟩ := h.carryOut
  have happly : s.flushed.run (applyOperation operation) =
      (operation.log s.flushed.graph outcome, s.flushed) := by
    have hrun : s.flushed.run (applyOperation operation) = ((operation.apply s.flushed.graph).1,
        { s.flushed with graph := (operation.apply s.flushed.graph).2 }) := rfl
    rw [hrun, Operation.apply, hcarried]
    rfl
  unfold perform
  rw [run_flushPending_bind, run_bind, happly, Operation.log]
  split_ifs
  · dsimp only
    rw [hchanges]
    rfl
  · rfl

/-- Recording the edit that waits leaves everything but the history alone. -/
theorem undisturbed_flushed_iff : s.Undisturbed s.flushed ↔
    s.flushed.history.entries = s.history.entries ∧
      s.flushed.history.index = s.history.index := by
  have hreport : s.flushed.report = s.report := by
    unfold flushed
    split <;> rfl
  exact ⟨fun h => ⟨h.entries, h.index⟩,
    fun h => ⟨s.flushed_graph, hreport, s.flushed_slots, s.flushed_slotName, h.1, h.2⟩⟩

/-- **When a refusal changes nothing**: in every session, exactly if no edit waits, or if the
history is full of entries that equal the one that is recorded. -/
theorem undisturbed_iff (h : s.graph.Refuses operation) (m : Moment Time) :
    s.Undisturbed (s.run (perform m operation)).2 ↔
      ∀ entry ∈ s.debouncer.pending, s.history.Repeats ⟨entry.label, s.graph⟩ := by
  rw [run_perform_of_refuses h m, undisturbed_flushed_iff]
  cases hpending : s.debouncer.pending with
  | none =>
      rw [flushed_of_quiet hpending]
      exact iff_of_true ⟨rfl, rfl⟩ nofun
  | some entry =>
      rw [flushed_of_pending hpending, History.record_same_iff]
      simp

/-- Two actions have been created, and the second creation has been undone. -/
def steppedBack : Session ℕ := started.after epoch [.perform creation, .perform creation, .undo]

theorem undisturbed_iff_steppedBack : steppedBack.history.canRedo = true ∧
    steppedBack.graph.checkConnect 1 1 = some (.selfConnection 1) ∧
    steppedBack.Undisturbed
      (steppedBack.run (perform epoch (.connect 1 1 "right" "left"))).2 := by
  have hself : steppedBack.graph.checkConnect 1 1 = some (.selfConnection 1) := by decide +kernel
  have hpending : steppedBack.debouncer.pending = none := by decide +kernel
  refine ⟨by decide +kernel, hself, ?_⟩
  refine (undisturbed_iff (refuses_of_checkConnect hself _ _) epoch).2 fun entry hentry => ?_
  rw [hpending] at hentry
  cases hentry

/-- The function of the action that is left has been set, and this edit waits. -/
def editedBack : Session ℕ := steppedBack.after epoch [.edit (setFunction "run")]

/-- **A refusal may take the way forward**: it records an edit that waits, and what had been undone
cannot be redone any more. -/
theorem not_undisturbed_editedBack : Reached (some emptyStore) editedBack ∧
    editedBack.graph.checkConnect 1 1 = some (.selfConnection 1) ∧
    editedBack.history.canRedo = true ∧
    ¬ editedBack.Undisturbed
      (editedBack.run (perform epoch (.connect 1 1 "right" "left"))).2 := by
  have hback : Reached (some emptyStore) steppedBack :=
    reached_started.after valid_epoch (by decide +kernel)
  have hself : editedBack.graph.checkConnect 1 1 = some (.selfConnection 1) := by decide +kernel
  have hahead : editedBack.history.canRedo = true := by decide +kernel
  refine ⟨hback.after valid_epoch (by decide +kernel), hself, hahead, fun hsame => ?_⟩
  have hindex := hsame.index
  revert hindex
  decide +kernel

end Session
end BehaviorTree
