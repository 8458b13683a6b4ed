import BehaviorTree.Session
import BehaviorTree.Proofs.Session.Slots

/-! # Calls that yield an answer

`s.Yields action a s'` says that a call on the session `s` answers `a` and leaves `s'`.  A call made
of two yields what the second yields on the session that the first leaves (`yields_bind_iff`).  For
each part of the calls of a session it is told once when it yields an answer, and which. -/

namespace BehaviorTree.Session

variable {Time α β : Type}

/-- A call on a session that answers and leaves a session. -/
def Yields (s : Session Time) (action : Action Time α) (a : α) (s' : Session Time) : Prop :=
  s.run action = (.ok a, s')

variable {s s' : Session Time}

/-! ### Sequences -/

theorem run_bind (s : Session Time) (action : Action Time α) (next : α → Action Time β) :
    s.run (action >>= next) = match s.run action with
      | (.ok a, s') => s'.run (next a)
      | (.error fault, s') => (.error fault, s') := by
  unfold run ExceptT.run StateT.run Id.run
  simp only [bind, ExceptT.bind, ExceptT.mk, StateT.bind, ExceptT.bindCont]
  cases action s with
  | mk answer s' => cases answer <;> rfl

theorem yields_bind_iff {action : Action Time α} {next : α → Action Time β} {b : β} :
    s.Yields (action >>= next) b s' ↔
      ∃ a s'', s.Yields action a s'' ∧ s''.Yields (next a) b s' := by
  simp only [Yields, run_bind]
  obtain ⟨answer, s''⟩ := s.run action
  cases answer with
  | error fault => simp
  | ok a => simp [Prod.ext_iff]

@[simp] theorem yields_pure_iff {a b : α} : s.Yields (pure a) b s' ↔ b = a ∧ s' = s := by
  change (Except.ok a, s) = (Except.ok b, s') ↔ _
  rw [Prod.mk.injEq, Except.ok.injEq, eq_comm, eq_comm (a := s)]

@[simp] theorem yields_map_iff {action : Action Time α} {f : α → β} {b : β} :
    s.Yields (f <$> action) b s' ↔ ∃ a, s.Yields action a s' ∧ b = f a := by
  rw [map_eq_pure_bind, yields_bind_iff]
  simp only [yields_pure_iff]
  constructor
  · rintro ⟨a, s'', h, rfl, rfl⟩
    exact ⟨a, h, rfl⟩
  · rintro ⟨a, h, rfl⟩
    exact ⟨a, s', h, rfl, rfl⟩

@[simp] theorem yields_get_iff {t : Session Time} : s.Yields get t s' ↔ t = s ∧ s' = s := by
  change (Except.ok s, s) = (Except.ok t, s') ↔ _
  rw [Prod.mk.injEq, Except.ok.injEq, eq_comm, eq_comm (a := s)]

@[simp] theorem yields_set_iff {t : Session Time} {u : PUnit} :
    s.Yields (set t) u s' ↔ s' = t := by
  change (Except.ok PUnit.unit, t) = (Except.ok u, s') ↔ _
  rw [Prod.mk.injEq, eq_comm (a := t)]
  exact and_iff_right rfl

@[simp] theorem yields_modify_iff {f : Session Time → Session Time} {u : PUnit} :
    s.Yields (modify f) u s' ↔ s' = f s := by
  change (Except.ok PUnit.unit, f s) = (Except.ok u, s') ↔ _
  rw [Prod.mk.injEq, eq_comm (a := f s)]
  exact and_iff_right rfl

@[simp] theorem yields_throw_iff {fault : Fault} {a : α} :
    s.Yields (throw fault) a s' ↔ False := by
  change (Except.error fault, s) = (Except.ok a, s') ↔ _
  simp

@[simp] theorem yields_lift_iff {answer : Except Fault α} {a : α} :
    s.Yields (liftM answer) a s' ↔ answer = .ok a ∧ s' = s := by
  change (answer, s) = (Except.ok a, s') ↔ _
  rw [Prod.mk.injEq, eq_comm (a := s)]

theorem yields_of_isOk {action : Action Time Unit} (h : (s.run action).1.isOk = true) :
    s.Yields action () (s.run action).2 := by
  unfold Yields
  cases hrun : s.run action with
  | mk answer s' =>
      rw [hrun] at h
      cases answer with
      | error fault => cases h
      | ok u => rfl

/-! ### Parts -/

/-- A session whose graph has become a history entry. -/
def recorded (s : Session Time) (label : String) : Session Time :=
  { s with history := s.history.record ⟨label, s.graph⟩ }

/-- A session whose history has been started anew. -/
def restarted (s : Session Time) (label : String) : Session Time :=
  { s with history := s.history.reset.record ⟨label, s.graph⟩ }

/-- A session in which no edit waits any more. -/
def flushed (s : Session Time) : Session Time :=
  match s.debouncer.label? with
  | none => { s with debouncer := s.debouncer.cancel }
  | some label => recorded { s with debouncer := s.debouncer.cancel } label

/-- A session whose document has been saved in its slot. -/
def persisted (s : Session Time) : Session Time :=
  match s.slots, s.slotName with
  | some slots, some name => { s with slots := some (slots.put (slots.saved name s.document)) }
  | _, _ => s

/-- A session that has been saved in its slot as a text. -/
def persistedAs (s : Session Time) (text : String) : Session Time :=
  match s.slots, s.slotName with
  | some slots, some name =>
    { s with slots := some (slots.put (slots.savedAs name s.document text)) }
  | _, _ => s

/-- The session has a slot only in a store, and under a clean name. -/
def Bound (s : Session Time) : Prop :=
  ∀ name ∈ s.slotName, s.slots.isSome = true ∧ Slots.cleanName name = .ok name

@[simp] theorem yields_applyOperation_iff {operation : Operation} {outcome : Outcome} :
    s.Yields (applyOperation operation) outcome s' ↔
      ∃ g, operation.apply s.graph = (.ok outcome, g) ∧ s' = { s with graph := g } := by
  simp only [applyOperation, yields_bind_iff, yields_get_iff, yields_set_iff, yields_lift_iff,
    and_assoc, exists_and_left, exists_eq_left, exists_const]
  obtain ⟨answer, g⟩ := operation.apply s.graph
  simp [Prod.ext_iff]

@[simp] theorem yields_revalidate_iff {u : PUnit} : s.Yields revalidate u s' ↔
    ∃ report, s.graph.validate true = .ok report ∧ s' = { s with report := report } := by
  simp [revalidate, yields_bind_iff, and_assoc]

@[simp] theorem yields_record_iff {label : String} {u : PUnit} :
    s.Yields (record label) u s' ↔ s' = s.recorded label :=
  yields_modify_iff

@[simp] theorem yields_restartHistory_iff {label : String} {u : PUnit} :
    s.Yields (restartHistory label) u s' ↔ s' = s.restarted label := by
  simp [restartHistory, yields_bind_iff, recorded, restarted]

@[simp] theorem yields_flushPending_iff {u : PUnit} :
    s.Yields flushPending u s' ↔ s' = s.flushed := by
  simp only [flushPending, yields_bind_iff, yields_get_iff, yields_set_iff, and_assoc,
    exists_and_left, exists_eq_left, exists_const, Debouncer.flush, flushed]
  cases s.debouncer.label? with
  | none => simp
  | some label => simp

/-- The document is saved as the text that the library prints. -/
theorem run_persistBy_of_ok (h : s.Bound) {lib : Library} {text : String}
    (hrender : ∀ name ∈ s.slotName, lib.render s.document none = .ok text) :
    s.run (persistBy lib) = (.ok (), s.persistedAs text) := by
  rw [persistBy, run_bind, show s.run get = (.ok s, s) from rfl, persistedAs]
  dsimp only
  cases hslots : s.slots with
  | none => rfl
  | some slots =>
      cases hname : s.slotName with
      | none => rfl
      | some name =>
          dsimp only
          rw [Slots.saveBy_of_clean (h name hname).2, hrender name hname]
          rfl

/-- A document that the library does not print is not saved. -/
theorem run_persistBy_of_error (h : s.Bound) {name : String} (hname : name ∈ s.slotName)
    {lib : Library} {fault : Fault} (hrender : lib.render s.document none = .error fault) :
    s.run (persistBy lib) = (.error fault, s) := by
  obtain ⟨slots, hslots⟩ := Option.isSome_iff_exists.1 (h name hname).1
  rw [persistBy, run_bind, show s.run get = (.ok s, s) from rfl]
  dsimp only
  rw [hslots, Option.mem_def.1 hname]
  dsimp only
  rw [Slots.saveBy_of_clean (h name hname).2, hrender]
  rfl

theorem yields_persist_iff (h : s.Bound) {u : PUnit} :
    s.Yields persist u s' ↔ s' = s.persisted := by
  rw [Yields, persist, run_persistBy_of_ok h fun _ _ => rfl, Prod.mk.injEq, eq_comm (b := s')]
  exact and_iff_right rfl

/-- What the standard library saves is saved without it too. -/
theorem yields_persist_of_standard (h : s.Bound) {half : Char} {u : PUnit}
    (hsaved : s.Yields (persistBy (.standard half)) u s') : s.Yields persist u s' := by
  have hprint : ∀ text, (Library.standard half).render s.document none = .ok text →
      text = s.document.render none := by
    intro text htext
    simp only [Library.render, Library.standard] at htext
    split_ifs at htext
    exact (Except.ok.inj htext).symm
  refine (yields_persist_iff h).2 ?_
  cases hrender : (Library.standard half).render s.document none with
  | ok text =>
      rw [Yields, run_persistBy_of_ok h fun _ _ => hrender, hprint text hrender] at hsaved
      exact (congrArg Prod.snd hsaved).symm
  | error fault =>
      cases hname : s.slotName with
      | none =>
          have hnone : ∀ name ∈ s.slotName,
              (Library.standard half).render s.document none = .ok (s.document.render none) := by
            rw [hname]
            intro name h
            cases h
          rw [Yields, run_persistBy_of_ok h hnone] at hsaved
          exact (congrArg Prod.snd hsaved).symm
      | some name =>
          rw [Yields, run_persistBy_of_error h hname hrender] at hsaved
          cases congrArg Prod.fst hsaved

theorem yields_afterChange_iff (h : s.Bound) {m : Moment Time} {u : PUnit} :
    s.Yields (afterChange m) u s' ↔ ∃ report, s.graph.validate true = .ok report ∧
      s' = persisted { s with report := report, modified := m.now } := by
  have hbound : ∀ report, Bound { s with report := report, modified := m.now } := fun _ => h
  have hpersist : ∀ report, Yields { s with report := report, modified := m.now }
      (persistBy .plain) u s' ↔ s' = persisted { s with report := report, modified := m.now } :=
    fun report => yields_persist_iff (hbound report)
  simp [afterChange, afterChangeBy, yields_bind_iff, hpersist]

/-- What follows a change with the standard library follows it without it too. -/
theorem yields_afterChange_of_standard (h : s.Bound) {half : Char} {m : Moment Time} {u : PUnit}
    (hafter : s.Yields (afterChangeBy (.standard half) m) u s') :
    s.Yields (afterChange m) u s' := by
  simp only [afterChangeBy, yields_bind_iff, yields_revalidate_iff, yields_modify_iff] at hafter
  obtain ⟨_, _, ⟨report, hreport, rfl⟩, _, _, rfl, hsaved⟩ := hafter
  have hbound : Bound { s with report := report, modified := m.now } := h
  refine (yields_afterChange_iff h).2 ⟨report, hreport, ?_⟩
  exact (yields_persist_iff hbound).1 (yields_persist_of_standard hbound hsaved)

theorem yields_load_iff {d : Document} {u : PUnit} : s.Yields (load d) u s' ↔
    ∃ g, d.toGraph = .ok g ∧ (loggedSizes g).all Text.isWritable = true ∧
      s' = { s with graph := g } := by
  unfold load
  cases d.toGraph with
  | error failure => simp
  | ok g =>
      simp only [yields_bind_iff, yields_modify_iff, exists_eq_left, exists_const, Except.ok.injEq,
        exists_eq_left']
      split_ifs with hsizes
      · simp [hsizes]
      · simp [hsizes]

@[simp] theorem yields_requireSlots_iff {slots : Slots} :
    s.Yields requireSlots slots s' ↔ s.slots = some slots ∧ s' = s := by
  simp only [requireSlots, yields_bind_iff, yields_get_iff, and_assoc, exists_and_left,
    exists_eq_left]
  cases s.slots with
  | none => simp
  | some slots' => simp [eq_comm]

@[simp] theorem yields_putSlots_iff {slots : Slots} {u : PUnit} :
    s.Yields (putSlots slots) u s' ↔ s' = { s with slots := some slots } :=
  yields_modify_iff

/-! ### Calls -/

theorem of_yields_poll [LT Time] [DecidableLT Time] {m : Moment Time} {due : Bool}
    (h : s.Yields (poll m) due s') : s' = s ∨ s' = s.flushed := by
  simp only [poll, yields_bind_iff, yields_get_iff, yields_set_iff, and_assoc, exists_and_left,
    exists_eq_left, exists_const, Debouncer.poll, Debouncer.flush] at h
  cases hpending : s.debouncer.pending with
  | none =>
      simp only [hpending, yields_pure_iff] at h
      exact Or.inl h.2
  | some entry =>
      simp only [hpending] at h
      split_ifs at h with hearly
      · exact Or.inl (yields_pure_iff.1 h).2
      · have hlabel : s.debouncer.label? = some entry.label := by
          rw [Debouncer.label?, hpending]
          rfl
        simp only [hlabel, yields_bind_iff, yields_record_iff, yields_pure_iff, exists_const,
          exists_eq_left] at h
        refine Or.inr ?_
        simp only [flushed, hlabel]
        exact h.2

theorem yields_perform_iff {m : Moment Time} {operation : Operation} {outcome : Outcome} :
    s.Yields (perform m operation) outcome s' ↔
      ∃ g, operation.apply s.flushed.graph = (.ok outcome, g) ∧
        if outcome.changesGraph then
          ∃ s'', Yields { s.flushed with graph := g } (afterChange m) () s'' ∧
            s' = s''.recorded (changeLabel operation)
        else s' = { s.flushed with graph := g } := by
  simp only [perform, yields_bind_iff, yields_flushPending_iff, exists_eq_left, exists_const,
    yields_applyOperation_iff]
  constructor
  · rintro ⟨outcome', -, ⟨g, hg, rfl⟩, h⟩
    split_ifs at h with hchanges
    · simp only [yields_bind_iff, yields_record_iff, yields_pure_iff, exists_eq_left,
        exists_const] at h
      obtain ⟨⟨⟩, s'', hafter, rfl, rfl⟩ := h
      exact ⟨g, hg, by rw [if_pos hchanges]; exact ⟨s'', hafter, rfl⟩⟩
    · obtain ⟨rfl, rfl⟩ := yields_pure_iff.1 h
      exact ⟨g, hg, by rw [if_neg hchanges]⟩
  · rintro ⟨g, hg, h⟩
    refine ⟨outcome, _, ⟨g, hg, rfl⟩, ?_⟩
    split_ifs at h ⊢ with hchanges
    · obtain ⟨s'', hafter, rfl⟩ := h
      simp only [yields_bind_iff, yields_record_iff, yields_pure_iff, exists_eq_left,
        exists_const]
      exact ⟨_, s'', hafter, trivial, rfl⟩
    · exact yields_pure_iff.2 ⟨rfl, h⟩

theorem of_yields_edit [Add Time] [LT Time] [DecidableLT Time] {m : Moment Time}
    {operation : Operation} {outcome : Outcome} (h : s.Yields (edit m operation) outcome s') :
    ∃ before g after, (before = s ∨ before = s.flushed) ∧
      operation.apply before.graph = (.ok outcome, g) ∧
      Yields { before with graph := g } (afterChange m) () after ∧
      s' = { after with debouncer := after.debouncer.schedule m.later (changeLabel operation) } := by
  simp only [edit, yields_bind_iff, yields_applyOperation_iff, yields_modify_iff, yields_pure_iff]
    at h
  obtain ⟨_, before, hpoll, _, _, ⟨g, hg, rfl⟩, _, after, hafter, _, _, rfl, rfl, rfl⟩ := h
  exact ⟨before, g, after, of_yields_poll hpoll, hg, hafter, rfl⟩

theorem yields_travel_iff {m : Moment Time}
    {move : History Snapshot → Except Fault (Option Snapshot × History Snapshot)} {moved : Bool} :
    s.Yields (travel m move) moved s' ↔
      ∃ snapshot history, move s.flushed.history = .ok (snapshot, history) ∧
        match snapshot with
        | none => moved = false ∧ s' = { s.flushed with history := history }
        | some entry => moved = true ∧
            Yields { s.flushed with history := history, graph := entry.graph } (afterChange m) ()
              s' := by
  simp only [travel, yields_bind_iff, yields_flushPending_iff, yields_get_iff, yields_lift_iff,
    yields_modify_iff, exists_eq_left, exists_const, and_assoc, exists_and_left, Prod.exists]
  refine exists_congr fun snapshot => exists_congr fun history => and_congr_right fun _ => ?_
  cases snapshot with
  | none => simp [restore]
  | some entry =>
      simp only [restore, yields_bind_iff, yields_modify_iff, exists_eq_left, exists_const,
        yields_pure_iff]
      constructor
      · rintro ⟨_, _, h, rfl, rfl⟩
        exact ⟨rfl, h⟩
      · rintro ⟨rfl, h⟩
        exact ⟨(), s', h, rfl, rfl⟩

theorem yields_loadSlot_iff {m : Moment Time} {name : String} {u : PUnit} :
    s.Yields (loadSlot m name) u s' ↔ ∃ slots d g, s.slots = some slots ∧
      slots.load name = .ok (some d) ∧ d.toGraph = .ok g ∧
      (loggedSizes g).all Text.isWritable = true ∧
      s' = { s with
        graph := g
        slotName := some name
        created := d.created.getD m.now
        modified := d.modified.getD (d.created.getD m.now)
        slots := some (slots.setLastUsed (some name)) } := by
  simp only [loadSlot, yields_bind_iff, yields_requireSlots_iff, yields_lift_iff, and_assoc,
    exists_and_left, exists_eq_left]
  refine exists_congr fun slots => and_congr_right fun _ => ?_
  constructor
  · rintro ⟨loaded, hloaded, h⟩
    cases loaded with
    | none => exact (yields_throw_iff.1 h).elim
    | some d =>
        simp only [yields_bind_iff, yields_load_iff, yields_modify_iff, yields_putSlots_iff,
          exists_const] at h
        obtain ⟨_, ⟨g, hg, hsizes, rfl⟩, _, rfl, rfl⟩ := h
        exact ⟨d, hloaded, g, hg, hsizes, rfl⟩
  · rintro ⟨d, hloaded, g, hg, hsizes, rfl⟩
    refine ⟨some d, hloaded, ?_⟩
    simp only [yields_bind_iff, yields_load_iff, yields_modify_iff, yields_putSlots_iff,
      exists_const]
    exact ⟨_, ⟨g, hg, hsizes, rfl⟩, _, rfl, rfl⟩

theorem yields_enter_iff {m : Moment Time} {slotName : Option String} {u : PUnit} :
    s.Yields (enter m slotName) u s' ↔ ∃ entered,
      (match initialSlot s.slots slotName with
        | some name => s.Yields (enterSlot m name) () entered
        | none => entered = s) ∧
      ∃ report, entered.graph.validate true = .ok report ∧
        s' = recorded { entered with report := report } "Initial" := by
  simp only [enter, yields_bind_iff, yields_get_iff, and_assoc, exists_and_left, exists_eq_left]
  cases initialSlot s.slots slotName with
  | none => simp [yields_bind_iff]
  | some name =>
      simp only [yields_bind_iff, yields_revalidate_iff, yields_record_iff]
      constructor
      · rintro ⟨_, entered, hentered, _, _, ⟨report, hreport, rfl⟩, rfl⟩
        exact ⟨entered, hentered, report, hreport, rfl⟩
      · rintro ⟨entered, hentered, report, hreport, rfl⟩
        exact ⟨(), entered, hentered, (), _, ⟨report, hreport, rfl⟩, rfl⟩

end BehaviorTree.Session
