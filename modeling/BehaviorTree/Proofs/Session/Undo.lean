import BehaviorTree.Proofs.Session.Run

/-! # Undo and redo

A change records the graph that it leaves, so the graphs of the last changes lie in the history,
each one step before the next, as far as the capacity goes (`exists_entry`).  Undo and redo move
the pointer by one and restore the graph that it points to; so undoing some of the last changes
brings the graph before them back, and redoing them the graph after them (`undo_redo`). -/

namespace BehaviorTree.Session

variable {Time : Type} {P : Slot → Prop} {s s' : Session Time} {m : Moment Time}

/-! ### Changes that are recorded -/

/-- A change that succeeds and is recorded. -/
inductive Records (s s' : Session Time) : Prop
  | perform {m : Moment Time} {operation : Operation} {outcome : Outcome} (hm : m.now.Valid)
      (hp : s.Yields (perform m operation) outcome s') (hchanges : outcome.changesGraph = true)
  | paste {m : Moment Time} {outcome : Outcome} (hm : m.now.Valid)
      (hp : s.Yields (pasteNode m) (some outcome) s')

theorem flushed_of_quiet (h : s.debouncer.pending = none) : s.flushed = s := by
  obtain ⟨settings, graph, history, ⟨delay, pending⟩, report, slots, slotName⟩ := s
  obtain rfl : pending = none := h
  rfl

theorem changesGraph_of_paste {g g' : Graph} {node : Node} {outcome : Outcome}
    (h : (Operation.pasteNode node).apply g = (.ok outcome, g')) :
    outcome.changesGraph = true := by
  obtain ⟨hcarried, -⟩ := Graph.apply_eq_ok_iff.1 h
  obtain ⟨pasted, -, rfl⟩ := Graph.attempt_eq_ok (congrArg Prod.fst hcarried)
  rfl

/-- What a change that is recorded leaves of a session in which no edit waits. -/
structure Advanced (P : Slot → Prop) (s s' : Session Time) : Prop where
  sound : s'.Sound P
  quiet : s'.debouncer.pending = none
  history : ∃ label, s'.history = s.history.record ⟨label, s'.graph⟩

theorem Sound.advanced_of_perform [Slots.Stable P] (h : s.Sound P)
    (hquiet : s.debouncer.pending = none) (hm : m.now.Valid) {operation : Operation}
    {outcome : Outcome} (hp : s.Yields (Session.perform m operation) outcome s')
    (hchanges : outcome.changesGraph = true) : s.Advanced P s' := by
  have hsound := h.perform hm hp
  obtain ⟨g, hg, hp⟩ := yields_perform_iff.1 hp
  rw [if_pos hchanges] at hp
  rw [flushed_of_quiet hquiet] at hg hp
  obtain ⟨after, hafter, rfl⟩ := hp
  have hs := (h.withGraph (h.editable.apply hg)).settled h.saved.bound hm hafter
  refine ⟨hsound, ?_, changeLabel operation, ?_⟩
  · exact (congrArg Debouncer.pending hs.debouncer).trans hquiet
  · exact congrArg (History.record · _) hs.history

theorem Sound.advanced [Slots.Stable P] (h : s.Sound P) (hquiet : s.debouncer.pending = none)
    (hr : s.Records s') : s.Advanced P s' := by
  cases hr with
  | perform hm hp hchanges => exact h.advanced_of_perform hquiet hm hp hchanges
  | @paste m outcome hm hp =>
      simp only [Session.pasteNode, yields_bind_iff, yields_get_iff, and_assoc, exists_and_left,
        exists_eq_left] at hp
      cases hclipboard : s.clipboard with
      | none =>
          simp only [hclipboard, yields_pure_iff] at hp
          cases hp.1
      | some node =>
          simp only [hclipboard, yields_bind_iff, yields_pure_iff, Option.some.injEq] at hp
          obtain ⟨outcome', after, hafter, rfl, rfl⟩ := hp
          obtain ⟨g, hg, -⟩ := yields_perform_iff.1 hafter
          exact h.advanced_of_perform hquiet hm hafter (changesGraph_of_paste hg)

section run

variable {run : ℕ → Session Time} {k : ℕ}

theorem sound_of_records [Slots.Stable P] (h : (run 0).Sound P)
    (hquiet : (run 0).debouncer.pending = none) (hrun : ∀ i < k, (run i).Records (run (i + 1))) :
    (run k).Sound P ∧ (run k).debouncer.pending = none ∧ (run k).history.capacity =
    (run 0).history.capacity := by
  induction k with
  | zero => exact ⟨h, hquiet, rfl⟩
  | succ k ih =>
      obtain ⟨hsound, hquiet', hcapacity⟩ := ih fun i hi => hrun i (hi.trans (Nat.lt_succ_self k))
      obtain ⟨hsound', hquiet'', label, hhistory⟩ :=
        hsound.advanced hquiet' (hrun k (Nat.lt_succ_self k))
      exact ⟨hsound', hquiet'', by rw [hhistory, ← hcapacity]; rfl⟩

/-- **The graphs of the last changes lie in the history**, each one step before the next. -/
theorem exists_entry [Slots.Stable P] (h : (run 0).Sound P)
    (hquiet : (run 0).debouncer.pending = none) (hrun : ∀ i < k, (run i).Records (run (i + 1)))
    {j : ℕ} (hj : j ≤ k) (hcapacity : j < (run 0).history.capacity) : ∃ entry,
    History.entry? (run k).history ((run k).history.index - j) = some entry ∧ entry.graph =
    (run (k - j)).graph := by
  induction k generalizing j with
  | zero =>
      obtain rfl := Nat.le_zero.1 hj
      obtain ⟨entry, hentry, hgraph⟩ := h.recorded
      exact ⟨entry, by simpa [History.current?] using hentry, hgraph hquiet⟩
  | succ k ih =>
      have hbefore : ∀ i < k, (run i).Records (run (i + 1)) :=
        fun i hi => hrun i (hi.trans (Nat.lt_succ_self k))
      obtain ⟨hsound, hquiet', hsame⟩ := sound_of_records h hquiet hbefore
      obtain ⟨-, -, label, hhistory⟩ := hsound.advanced hquiet' (hrun k (Nat.lt_succ_self k))
      cases j with
      | zero =>
          refine ⟨⟨label, (run (k + 1)).graph⟩, ?_, rfl⟩
          rw [hhistory]
          have hrecord := (run k).history.current?_record ⟨label, (run (k + 1)).graph⟩
          simpa [History.current?] using hrecord
      | succ j =>
          obtain ⟨entry, hentry, hgraph⟩ := ih hbefore (Nat.le_of_succ_le_succ hj)
            (Nat.lt_of_succ_lt hcapacity)
          obtain ⟨current, hcurrent, -⟩ := hsound.recorded
          refine ⟨entry, ?_, by rw [hgraph, Nat.add_sub_add_right]⟩
          rw [hhistory, ← hentry]
          exact_mod_cast History.entry_record _ (History.bounds_of_entry hcurrent).2
            hsound.length_le (hsame ▸ hcapacity)

end run

/-! ### Moving -/

/-- A sound session in which no edit waits and whose history points to an index of some entries. -/
structure Stands (P : Slot → Prop) (s : Session Time) (entries : List Snapshot) (index : ℤ) : Prop
    where
  sound : s.Sound P
  quiet : s.debouncer.pending = none
  entries_eq : s.history.entries = entries
  index_eq : s.history.index = index

variable {entries : List Snapshot} {index : ℤ}

theorem Stands.bounds (h : s.Stands P entries index) : 0 ≤ index ∧ index < entries.length := by
  obtain ⟨entry, hentry, -⟩ := h.sound.recorded
  have := History.bounds_of_entry hentry
  rwa [h.entries_eq, h.index_eq] at this

/-- Where a session stands tells its graph. -/
theorem Stands.graph_eq (h : s.Stands P entries index) {s' : Session Time} {entry : Snapshot}
    (hs : s'.history.entries = entries) (he : s'.history.entry? index = some entry) :
    s.graph = entry.graph := by
  obtain ⟨current, hcurrent, hgraph⟩ := h.sound.recorded
  rw [History.current?, h.index_eq, History.entry_congr (h.entries_eq.trans hs.symm), he]
    at hcurrent
  rw [Option.some.inj hcurrent]
  exact (hgraph h.quiet).symm

/-- A session stands elsewhere after a move to another entry. -/
theorem Stands.travel [Slots.Stable P] (h : s.Stands P entries index) (hm : m.now.Valid)
    {move : History Snapshot → Except Fault (Option Snapshot × History Snapshot)} {target : ℤ}
    {entry : Snapshot} (he : s.history.entry? target = some entry)
    (hmove : move s.history = .ok (some entry, { s.history with index := target })) :
    ∃ s', s.Yields (travel m move) true s' ∧ s'.Stands P entries target := by
  have hs := h.sound
  obtain ⟨hrestorable, report, hreport⟩ := hs.snapshots entry (History.mem_of_entry he)
  have hintact := Intact.withGraph
    (s := { s with history := { s.history with index := target } })
    ⟨hs.editable, hs.created, hs.modified, hs.snapshots, hs.length_le, hs.slots⟩ hrestorable
  have hbound : Bound { s with
      history := { s.history with index := target }, graph := entry.graph } := hs.saved.bound
  obtain ⟨s', hafter⟩ : ∃ s', Yields { s with
      history := { s.history with index := target }, graph := entry.graph } (afterChange m) () s' :=
    ⟨_, (yields_afterChange_iff hbound).2 ⟨report, hreport, rfl⟩⟩
  have hsettled := hintact.settled hbound hm hafter
  have htravel : s.Yields (Session.travel m move) true s' := by
    rw [yields_travel_iff, flushed_of_quiet h.quiet]
    exact ⟨some entry, _, hmove, rfl, hafter⟩
  refine ⟨s', htravel, ⟨hsettled.intact, hsettled.reported, hsettled.saved, entry, ?_, ?_⟩, ?_, ?_,
    ?_⟩
  · rw [hsettled.history]
    exact he
  · exact fun _ => hsettled.graph.symm
  · rw [hsettled.debouncer]
    exact h.quiet
  · rw [hsettled.history]
    exact h.entries_eq
  · rw [hsettled.history]

theorem Stands.undo [Slots.Stable P] (h : s.Stands P entries index) (hm : m.now.Valid)
    (hindex : 1 ≤ index) : ∃ s', s.Yields (undo m) true s' ∧ s'.Stands P entries (index - 1) := by
  obtain ⟨entry, he⟩ := s.history.exists_entry_of_lt (index - 1) (by omega)
    (by rw [h.entries_eq]; have := h.bounds.2; omega)
  have hundo : s.history.undo = (some entry, { s.history with index := index - 1 }) := by
    rw [← h.index_eq] at he ⊢
    exact History.undo_eq he
  exact h.travel hm he (congrArg Except.ok hundo)

theorem Stands.redo [Slots.Stable P] (h : s.Stands P entries index) (hm : m.now.Valid)
    (hindex : index + 1 < entries.length) :
    ∃ s', s.Yields (redo m) true s' ∧ s'.Stands P entries (index + 1) := by
  have hpos := h.bounds.1
  obtain ⟨entry, he⟩ := s.history.exists_entry_of_lt (index + 1) (by omega)
    (by rw [h.entries_eq]; exact hindex)
  have hredo : s.history.redo = (some entry, { s.history with index := index + 1 }) := by
    rw [← h.index_eq] at he hpos ⊢
    exact History.redo_eq hpos he
  exact h.travel hm he (congrArg Except.ok hredo)

/-- Calls on a session, one after the other, that all answer true. -/
inductive Succeeds : Session Time → List (Action Time Bool) → Session Time → Prop
  | nil {s : Session Time} : Succeeds s [] s
  | cons {s s' s'' : Session Time} {action : Action Time Bool} {actions : List (Action Time Bool)}
      (hfirst : s.Yields action true s') (hrest : Succeeds s' actions s'') :
      Succeeds s (action :: actions) s''

theorem Stands.undos [Slots.Stable P] (h : s.Stands P entries index) (undos : List (Moment Time))
    (hm : ∀ m ∈ undos, m.now.Valid) (hindex : undos.length ≤ index) :
    ∃ s', s.Succeeds (undos.map Session.undo) s' ∧ s'.Stands P entries (index - undos.length) := by
  induction undos generalizing s index with
  | nil => exact ⟨s, .nil, by simpa using h⟩
  | cons m undos ih =>
      rw [List.length_cons] at hindex ⊢
      obtain ⟨s', hundo, hstands⟩ := h.undo (hm m List.mem_cons_self) (by omega)
      obtain ⟨s'', hundos, hstands'⟩ := ih hstands
        (fun m' hm' => hm m' (List.mem_cons_of_mem _ hm')) (by omega)
      refine ⟨s'', .cons hundo hundos, ?_⟩
      rwa [show index - (undos.length + 1 : ℕ) = index - 1 - undos.length by push_cast; ring]

theorem Stands.redos [Slots.Stable P] (h : s.Stands P entries index) (redos : List (Moment Time))
    (hm : ∀ m ∈ redos, m.now.Valid) (hindex : index + redos.length < entries.length) :
    ∃ s', s.Succeeds (redos.map Session.redo) s' ∧ s'.Stands P entries (index + redos.length) := by
  induction redos generalizing s index with
  | nil => exact ⟨s, .nil, by simpa using h⟩
  | cons m redos ih =>
      rw [List.length_cons] at hindex ⊢
      obtain ⟨s', hredo, hstands⟩ := h.redo (hm m List.mem_cons_self) (by omega)
      obtain ⟨s'', hredos, hstands'⟩ := ih hstands
        (fun m' hm' => hm m' (List.mem_cons_of_mem _ hm')) (by omega)
      refine ⟨s'', .cons hredo hredos, ?_⟩
      rwa [show index + (redos.length + 1 : ℕ) = index + 1 + redos.length by push_cast; ring]

/-- **Undo and redo bring the graphs of the last changes back.**  From a session of a run in which
no edit waits, changes are made that are each recorded.  Undoing some of them, but fewer than the
history holds, restores the graph before these, with its next id; redoing them restores the graph
after all changes. -/
theorem undo_redo [Add Time] [LT Time] [DecidableLT Time] {slots : Option Slots}
    (hclean : ∀ slots' ∈ slots, slots'.All Slots.IsClean) {run : ℕ → Session Time} {k j : ℕ}
    (hreached : Reached slots (run 0)) (hquiet : (run 0).debouncer.pending = none)
    (hrun : ∀ i < k, (run i).Records (run (i + 1))) (hcapacity : 2 ≤ (run 0).history.capacity)
    (hj : j ≤ min k ((run 0).history.capacity - 1)) {undos redos : List (Moment Time)}
    (hundos : undos.length = j) (hredos : redos.length = j)
    (hvalid : ∀ m ∈ undos ++ redos, m.now.Valid) :
    ∃ back again, (run k).Succeeds (undos.map undo) back ∧ back.graph = (run (k - j)).graph ∧
      back.Succeeds (redos.map redo) again ∧ again.graph = (run k).graph := by
  have hsound := hreached.sound hclean
  obtain ⟨hsound', hquiet', -⟩ := sound_of_records hsound hquiet hrun
  have hstands : (run k).Stands Slots.IsClean (run k).history.entries (run k).history.index :=
    ⟨hsound', hquiet', rfl, rfl⟩
  obtain ⟨entry, hentry, hgraph⟩ := exists_entry hsound hquiet hrun (j := j) (by omega) (by omega)
  have hback := (History.bounds_of_entry hentry).1
  have hlast := hstands.bounds.2
  obtain ⟨back, hsteps, hstands'⟩ := hstands.undos undos
    (fun m hm => hvalid m (List.mem_append_left _ hm)) (by omega)
  obtain ⟨again, hsteps', hstands''⟩ := hstands'.redos redos
    (fun m hm => hvalid m (List.mem_append_right _ hm)) (by omega)
  refine ⟨back, again, hsteps, ?_, hsteps', ?_⟩
  · rw [← hgraph]
    exact hstands'.graph_eq rfl (by rw [hundos]; exact hentry)
  · obtain ⟨current, hcurrent, hgraph'⟩ := hsound'.recorded
    rw [← hgraph' hquiet']
    refine hstands''.graph_eq rfl ?_
    rw [hundos, hredos, sub_add_cancel]
    exact hcurrent

/-- Sessions with more and more actions. -/
def growing (count : ℕ) : Session ℕ :=
  (fun s => (s.run (perform epoch creation)).2)^[count] started

theorem records_of_run {s : Session ℕ}
    (h : ((s.run (perform epoch creation)).1.map Outcome.changesGraph).toOption = some true) :
    s.Records (s.run (perform epoch creation)).2 := by
  cases hrun : s.run (perform epoch creation) with
  | mk answer s' =>
      rw [hrun] at h
      cases answer with
      | error fault => cases h
      | ok outcome => exact .perform valid_epoch hrun (Option.some.inj h)

theorem undo_redo_growing : ∃ back again,
    (growing 3).Succeeds [undo epoch] back ∧ back.graph = (growing 2).graph ∧
      back.Succeeds [redo epoch] again ∧ again.graph = (growing 3).graph := by
  have hrecords : ∀ i < 3, (growing i).Records (growing (i + 1)) := by
    intro i hi
    have hstep : growing (i + 1) = ((growing i).run (perform epoch creation)).2 :=
      Function.iterate_succ_apply' _ i started
    rw [hstep]
    refine records_of_run ?_
    obtain rfl | rfl | rfl : i = 0 ∨ i = 1 ∨ i = 2 := by omega
    all_goals decide +kernel
  have hvalid : ∀ m ∈ [epoch] ++ [epoch], m.now.Valid := by simp [valid_epoch]
  exact undo_redo (j := 1) all_emptyStore reached_started (by decide +kernel) hrecords
    (by decide +kernel) (by decide +kernel) rfl rfl hvalid

end BehaviorTree.Session
