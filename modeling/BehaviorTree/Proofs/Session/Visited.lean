import BehaviorTree.Proofs.Session.Run

/-! # Sessions in which calls may fail

A call that fails leaves behind what it has done so far, and the session goes on from there.  What
every call maintains, whether it answers or fails, all sessions that are ever visited have.

One such thing is that a session has a slot only in a store and under a clean name, and that the
names in the store are clean (`Housed`).  So a visited session always finds its slot
(`Visited.housed`), and saving fails only for what the library does not print. -/

namespace BehaviorTree.Session

variable {Time α β : Type}

/-- A call maintains a property of sessions, whether it answers or fails. -/
def Maintains (P : Session Time → Prop) (action : Action Time α) : Prop :=
  ∀ s, P s → P (s.run action).2

/-! ### Sequences -/

section sequences

variable {P Q : Session Time → Prop}

theorem Maintains.bind {action : Action Time α} {next : α → Action Time β}
    (ha : Maintains P action) (hn : ∀ a, Maintains P (next a)) : Maintains P (action >>= next) := by
  intro s hs
  have hbetween := ha s hs
  rw [run_bind]
  cases hrun : s.run action with
  | mk answer s' =>
      rw [hrun] at hbetween
      cases answer with
      | error fault => exact hbetween
      | ok a => exact hn a s' hbetween

theorem Maintains.and {action : Action Time α} (hp : Maintains P action) (hq : Maintains Q action) :
    Maintains (fun s => P s ∧ Q s) action :=
  fun s hs => ⟨hp s hs.1, hq s hs.2⟩

theorem maintains_pure (a : α) : Maintains P (pure a) := fun _ hs => hs

theorem maintains_get : Maintains P get := fun _ hs => hs

theorem maintains_throw (fault : Fault) : Maintains (α := α) P (throw fault) := fun _ hs => hs

theorem maintains_lift (answer : Except Fault α) : Maintains P (liftM answer) := fun _ hs => hs

theorem maintains_modify {f : Session Time → Session Time} (h : ∀ s, P s → P (f s)) :
    Maintains P (modify f) := h

theorem Maintains.map {action : Action Time α} (h : Maintains P action) (f : α → β) :
    Maintains P (f <$> action) := by
  rw [map_eq_pure_bind]
  exact h.bind fun a => maintains_pure (f a)

/-- A call that starts by looking at the session may use what it sees. -/
theorem maintains_get_bind {next : Session Time → Action Time β}
    (h : ∀ s, P s → P (s.run (next s)).2) : Maintains P (get >>= next) := by
  intro s hs
  rw [run_bind]
  exact h s hs

/-- A call that goes on with another session maintains what that session has. -/
theorem maintains_set_bind {s t : Session Time} {next : PUnit → Action Time β} (ht : P t)
    (h : ∀ u, Maintains P (next u)) : P (s.run (set t >>= next)).2 := by
  rw [run_bind]
  exact h _ t ht

/-- A call that starts with an answer goes on from the same session. -/
theorem maintains_lift_bind {s : Session Time} {answer : Except Fault α}
    {next : α → Action Time β} (hs : P s)
    (h : ∀ a, answer = .ok a → P (s.run (next a)).2) : P (s.run (liftM answer >>= next)).2 := by
  rw [run_bind]
  cases answer with
  | error fault => exact hs
  | ok a => exact h a rfl

theorem maintains_requireSlots_bind {next : Slots → Action Time β}
    (h : ∀ (s : Session Time) slots, P s → s.slots = some slots → P (s.run (next slots)).2) :
    Maintains P (requireSlots >>= next) := by
  intro s hs
  cases hslots : s.slots with
  | none =>
      have hrun : s.run requireSlots = (.error .noSlotStore, s) := by
        rw [requireSlots, run_bind, show s.run get = (.ok s, s) from rfl]
        dsimp only
        rw [hslots]
        rfl
      rw [run_bind, hrun]
      exact hs
  | some slots =>
      have hrun : s.run requireSlots = (.ok slots, s) := yields_requireSlots_iff.2 ⟨hslots, rfl⟩
      rw [run_bind, hrun]
      exact h s slots hs hslots

end sequences

/-! ### Calls that leave the store alone -/

/-- A call leaves the store of slots and the name of the slot alone. -/
def Quiet (action : Action Time α) : Prop :=
  ∀ slots name, Maintains (fun s => s.slots = slots ∧ s.slotName = name) action

theorem Quiet.bind {action : Action Time α} {next : α → Action Time β} (ha : Quiet action)
    (hn : ∀ a, Quiet (next a)) : Quiet (action >>= next) :=
  fun slots name => (ha slots name).bind fun a => hn a slots name

theorem quiet_pure (a : α) : Quiet (pure a : Action Time α) := fun _ _ => maintains_pure a

theorem quiet_modify {f : Session Time → Session Time}
    (h : ∀ s, (f s).slots = s.slots ∧ (f s).slotName = s.slotName) : Quiet (modify f) :=
  fun _ _ s hs => ⟨(h s).1.trans hs.1, (h s).2.trans hs.2⟩

theorem quiet_applyOperation (operation : Operation) :
    Quiet (applyOperation operation : Action Time Outcome) := fun _ _ _ hs => hs

theorem quiet_record (label : String) : Quiet (record label : Action Time Unit) :=
  fun _ _ _ hs => hs

theorem quiet_restartHistory (label : String) : Quiet (restartHistory label : Action Time Unit) :=
  fun _ _ _ hs => hs

theorem quiet_revalidate : Quiet (revalidate : Action Time Unit) := fun _ _ =>
  maintains_get.bind fun s => (maintains_lift (s.graph.validate true)).bind fun _ =>
    maintains_modify fun _ hs => hs

theorem quiet_flushPending : Quiet (flushPending : Action Time Unit) := by
  intro slots name s hs
  have hrun : s.run flushPending = (.ok (), s.flushed) := yields_flushPending_iff.2 rfl
  rw [hrun]
  exact ⟨s.flushed_slots.trans hs.1, s.flushed_slotName.trans hs.2⟩

theorem quiet_load (d : Document) : Quiet (load d : Action Time Unit) := by
  unfold load
  cases d.toGraph with
  | error failure => exact fun _ _ => maintains_throw _
  | ok g =>
      refine Quiet.bind (fun _ _ => maintains_modify fun _ hs => hs) fun _ => ?_
      split_ifs
      · exact quiet_pure _
      · exact fun _ _ => maintains_throw _

theorem quiet_copyNode (id : ℤ) : Quiet (copyNode id : Action Time Node) := fun _ _ =>
  maintains_get.bind fun s => (maintains_lift (s.graph.get id)).bind fun node =>
    (maintains_modify fun _ hs => hs).bind fun _ => maintains_pure node

theorem quiet_poll [LT Time] [DecidableLT Time] (m : Moment Time) : Quiet (poll m) := by
  intro slots name
  refine maintains_get_bind fun s hs => ?_
  obtain ⟨label, debouncer⟩ := s.debouncer.poll m.time
  refine maintains_set_bind (P := fun s => s.slots = slots ∧ s.slotName = name) hs fun _ => ?_
  cases label with
  | none => exact maintains_pure false
  | some label => exact (quiet_record label _ _).bind fun _ => maintains_pure true

/-- What only depends on the store and the name of the slot is maintained by calls that leave them
alone. -/
theorem Quiet.maintains {action : Action Time α} (h : Quiet action) {P : Session Time → Prop}
    (hP : ∀ s s', s'.slots = s.slots → s'.slotName = s.slotName → P s → P s') :
    Maintains P action := by
  intro s hs
  obtain ⟨hslots, hname⟩ := h s.slots s.slotName s ⟨rfl, rfl⟩
  exact hP s _ hslots hname hs

/-! ### Housed sessions -/

/-- The session has a slot only in a store and under a clean name, and so have all slots of the
store. -/
structure Housed (s : Session Time) : Prop where
  bound : s.Bound
  clean : ∀ slots ∈ s.slots, slots.All Slots.IsClean

/-- The session has a store. -/
def Stocked (s : Session Time) : Prop := s.slots.isSome = true

theorem Housed.congr {s s' : Session Time} (hslots : s'.slots = s.slots)
    (hname : s'.slotName = s.slotName) (h : s.Housed) : s'.Housed := by
  refine ⟨fun name hmem => ?_, fun slots hmem => ?_⟩
  · rw [hname] at hmem
    rw [hslots]
    exact h.bound name hmem
  · rw [hslots] at hmem
    exact h.clean slots hmem

theorem Quiet.housed {action : Action Time α} (h : Quiet action) : Maintains Housed action :=
  h.maintains fun _ _ hslots hname hs => hs.congr hslots hname

theorem Quiet.stocked {action : Action Time α} (h : Quiet action) : Maintains Stocked action :=
  h.maintains fun _ _ hslots _ hs => by rwa [Stocked, hslots]

/-- A session with a store is housed if all its names are clean. -/
theorem housed_of_slots {s : Session Time} {slots : Slots} (hslots : s.slots = some slots)
    (hall : slots.All Slots.IsClean)
    (hname : ∀ name ∈ s.slotName, Slots.cleanName name = .ok name) : s.Housed := by
  refine ⟨fun name hmem => ⟨by rw [hslots]; rfl, hname name hmem⟩, fun slots' hmem => ?_⟩
  obtain rfl := Option.some.inj (hslots.symm.trans hmem)
  exact hall

/-- A session with a store may take any clean name. -/
theorem Housed.withName {s s' : Session Time} (h : s.Housed ∧ s.Stocked)
    (hslots : s'.slots = s.slots) {name : String} (hname : s'.slotName = some name)
    (hclean : Slots.cleanName name = .ok name) : s'.Housed ∧ s'.Stocked := by
  obtain ⟨slots, hsome⟩ := Option.isSome_iff_exists.1 h.2
  refine ⟨housed_of_slots (hslots.trans hsome) (h.1.clean slots hsome) fun other hother => ?_, ?_⟩
  · obtain rfl := Option.some.inj (hname.symm.trans hother)
    exact hclean
  · rw [Stocked, hslots]
    exact h.2

theorem Housed.cleanName {s : Session Time} (h : s.Housed) {name : String}
    (hname : name ∈ s.slotName) : Slots.cleanName name = .ok name :=
  (h.bound name hname).2

theorem housed_putSlots {slots : Slots} (hall : slots.All Slots.IsClean) :
    Maintains Housed (putSlots slots : Action Time Unit) := fun _ hs =>
  housed_of_slots rfl hall fun _ hname => hs.cleanName hname

theorem stocked_putSlots (slots : Slots) : Maintains Stocked (putSlots slots : Action Time Unit) :=
  fun _ _ => rfl

theorem stocked_persist : Maintains Stocked (persist : Action Time Unit) := by
  refine maintains_get_bind fun s hs => ?_
  split
  · exact maintains_lift_bind hs fun slots _ => rfl
  · exact hs

/-- In a session with a store a call may rely on the store. -/
theorem housed_of_stocked {action : Action Time α} {s : Session Time} {slots : Slots}
    (h : Maintains (fun t => t.Housed ∧ t.Stocked) action) (hs : s.Housed)
    (hslots : s.slots = some slots) : (s.run action).2.Housed :=
  (h s ⟨hs, by rw [Stocked, hslots]; rfl⟩).1

theorem Housed.persistedAs {s : Session Time} (hs : s.Housed) (text : String) :
    (s.persistedAs text).Housed := by
  unfold Session.persistedAs
  split
  · rename_i slots name hslots hname
    have hclean := (hs.bound name hname).2
    exact housed_of_slots rfl ((hs.clean slots hslots).put hclean) fun _ hmem => hs.cleanName hmem
  · exact hs

/-- Saving leaves a session housed, whether the library prints its document or not. -/
theorem housed_persistBy (lib : Library) :
    Maintains Housed (persistBy lib : Action Time Unit) := by
  intro s hs
  cases hrender : lib.render s.document none with
  | ok text =>
      rw [run_persistBy_of_ok hs.bound fun _ _ => hrender]
      exact hs.persistedAs text
  | error fault =>
      cases hname : s.slotName with
      | none =>
          have hnone : ∀ name ∈ s.slotName, lib.render s.document none = .ok "" := by
            rw [hname]
            intro name h
            cases h
          rw [run_persistBy_of_ok hs.bound hnone]
          exact hs.persistedAs ""
      | some name =>
          rw [run_persistBy_of_error hs.bound hname hrender]
          exact hs

theorem housed_persist : Maintains Housed (persist : Action Time Unit) := housed_persistBy .plain

/-- A change of the session that is neither of its store nor of the name of its slot. -/
theorem housed_modify_bind {f : Session Time → Session Time} {next : PUnit → Action Time β}
    (hf : ∀ s, (f s).slots = s.slots ∧ (f s).slotName = s.slotName)
    (hn : ∀ u, Maintains Housed (next u)) : Maintains Housed (modify f >>= next) :=
  (quiet_modify hf).housed.bind hn

theorem housed_afterChangeBy (lib : Library) (m : Moment Time) :
    Maintains Housed (afterChangeBy lib m) := by
  refine quiet_revalidate.housed.bind fun _ => ?_
  exact housed_modify_bind (fun _ => ⟨rfl, rfl⟩) fun _ => housed_persistBy lib

theorem housed_afterChange (m : Moment Time) : Maintains Housed (afterChange m) :=
  housed_afterChangeBy .plain m

theorem stocked_afterChange (m : Moment Time) : Maintains Stocked (afterChange m) := by
  refine quiet_revalidate.stocked.bind fun _ => Maintains.bind ?_ fun _ => stocked_persist
  exact (quiet_modify fun _ => ⟨rfl, rfl⟩).stocked

/-! ### Calls -/

theorem housed_perform (m : Moment Time) (operation : Operation) :
    Maintains Housed (perform m operation) := by
  refine quiet_flushPending.housed.bind fun _ => ?_
  refine (quiet_applyOperation operation).housed.bind fun outcome => ?_
  dsimp only
  split_ifs
  · refine (housed_afterChange m).bind fun _ => (quiet_record _).housed.bind fun _ => ?_
    exact maintains_pure outcome
  · exact maintains_pure outcome

theorem housed_edit [Add Time] [LT Time] [DecidableLT Time] (m : Moment Time)
    (operation : Operation) : Maintains Housed (edit m operation) := by
  refine (quiet_poll m).housed.bind fun _ => ?_
  refine (quiet_applyOperation operation).housed.bind fun outcome => ?_
  refine (housed_afterChange m).bind fun _ => ?_
  exact housed_modify_bind (fun _ => ⟨rfl, rfl⟩) fun _ => maintains_pure outcome

theorem housed_pasteNode (m : Moment Time) : Maintains Housed (pasteNode m) := by
  refine maintains_get.bind fun s => ?_
  cases s.clipboard with
  | none => exact maintains_pure none
  | some node => exact (housed_perform m _).bind fun outcome => maintains_pure _

theorem housed_travel (m : Moment Time)
    (move : History Snapshot → Except Fault (Option Snapshot × History Snapshot)) :
    Maintains Housed (travel m move) := by
  refine quiet_flushPending.housed.bind fun _ => maintains_get.bind fun s => ?_
  refine (maintains_lift (move s.history)).bind fun ⟨snapshot, history⟩ => ?_
  refine housed_modify_bind (fun _ => ⟨rfl, rfl⟩) fun _ => ?_
  cases snapshot with
  | none => exact maintains_pure false
  | some entry =>
      refine housed_modify_bind (fun _ => ⟨rfl, rfl⟩) fun _ => ?_
      exact (housed_afterChange m).bind fun _ => maintains_pure true

theorem housed_importBy (lib : Library) (m : Moment Time) (read : Except Fault Document) :
    Maintains Housed (importBy lib m read) := by
  refine (maintains_lift read).bind fun d => ?_
  refine housed_modify_bind (fun _ => ⟨rfl, rfl⟩) fun _ => (quiet_load d).housed.bind fun _ => ?_
  refine housed_modify_bind (fun _ => ⟨rfl, rfl⟩) fun _ => ?_
  exact (housed_afterChangeBy lib m).bind fun _ => (quiet_restartHistory _).housed

/-- A slot that is loaded is one of the store, so its name is clean. -/
theorem housed_loadSlot (m : Moment Time) (name : String) :
    Maintains Housed (loadSlot m name) := by
  refine maintains_requireSlots_bind fun s slots hs hslots => ?_
  have hall : (slots.setLastUsed (some name)).All Slots.IsClean := hs.clean slots hslots
  refine maintains_lift_bind hs fun loaded hload => ?_
  cases loaded with
  | none => exact hs
  | some d =>
      obtain ⟨slot, hslot, -⟩ := Slots.load_eq_ok_some hload
      obtain ⟨hmem, hname⟩ := Slots.mem_of_find? hslot
      have hclean : Slots.cleanName name = .ok name := hname ▸ hall slot hmem
      refine housed_of_stocked ?_ hs hslots
      refine ((quiet_load d).housed.and (quiet_load d).stocked).bind fun _ => ?_
      refine Maintains.bind (maintains_modify fun t ht => ?_) fun _ =>
        (housed_putSlots hall).and (stocked_putSlots _)
      exact Housed.withName ht rfl rfl hclean

theorem housed_openSlot (m : Moment Time) (name : String) :
    Maintains Housed (openSlot m name) := by
  refine quiet_flushPending.housed.bind fun _ => housed_persist.bind fun _ => ?_
  refine (housed_loadSlot m name).bind fun _ => quiet_revalidate.housed.bind fun _ => ?_
  exact (quiet_restartHistory _).housed

theorem housed_newSlot (m : Moment Time) (name : String) :
    Maintains Housed (newSlot m name) := by
  refine maintains_requireSlots_bind fun s slots hs hslots => ?_
  refine maintains_lift_bind hs fun cleaned hcleaned => ?_
  refine maintains_lift_bind hs fun taken _ => ?_
  dsimp only
  split_ifs
  · exact hs
  refine housed_of_stocked ?_ hs hslots
  refine Maintains.bind (quiet_flushPending.housed.and quiet_flushPending.stocked) fun _ => ?_
  refine Maintains.bind (housed_persist.and stocked_persist) fun _ => ?_
  refine Maintains.bind (maintains_modify fun t ht => ?_) fun _ => ?_
  · exact Housed.withName ht rfl rfl (Slots.cleanName_of_cleanName hcleaned)
  refine maintains_requireSlots_bind fun t slots' ht hslots' => ?_
  have hall : (slots'.setLastUsed (some cleaned)).All Slots.IsClean := ht.1.clean slots' hslots'
  have hrest : Maintains (fun t : Session Time => t.Housed ∧ t.Stocked)
      (putSlots (slots'.setLastUsed (some cleaned)) >>= fun _ => afterChange m >>= fun _ =>
        restartHistory "Initial") := by
    refine Maintains.bind ((housed_putSlots hall).and (stocked_putSlots _)) fun _ => ?_
    refine Maintains.bind ((housed_afterChange m).and (stocked_afterChange m)) fun _ => ?_
    exact (quiet_restartHistory _).housed.and (quiet_restartHistory _).stocked
  exact hrest t ht

theorem housed_renameSlot (old new : String) :
    Maintains Housed (renameSlot old new : Action Time Unit) := by
  refine maintains_requireSlots_bind fun s slots hs hslots => ?_
  refine maintains_lift_bind hs fun slots' hrename => ?_
  obtain ⟨cleaned, hcleaned, hrenamed⟩ := Slots.renamed_of_rename hrename
  have hall := (hs.clean slots hslots).renamed hrenamed
  refine housed_of_stocked ?_ hs hslots
  refine Maintains.bind ((housed_putSlots hall).and (stocked_putSlots _)) fun _ => ?_
  refine maintains_get.bind fun t => ?_
  split_ifs
  · intro t' ht'
    refine maintains_lift_bind (P := fun t => t.Housed ∧ t.Stocked) ht' fun name hname => ?_
    exact Housed.withName ht' rfl rfl (Slots.cleanName_of_cleanName hname)
  · exact maintains_pure ()

theorem housed_deleteSlot (name : String) :
    Maintains Housed (deleteSlot name : Action Time Unit) := by
  refine maintains_requireSlots_bind fun s slots hs hslots => ?_
  have hall := (hs.clean slots hslots).delete name
  refine housed_of_stocked ?_ hs hslots
  refine maintains_get.bind fun t => ?_
  have hrest : Maintains (fun t : Session Time => t.Housed ∧ t.Stocked)
      (putSlots (slots.delete name).2 >>= fun _ =>
        if !(slots.delete name).1 then throw (.unknownSlot name) else pure ()) := by
    refine Maintains.bind ((housed_putSlots hall).and (stocked_putSlots _)) fun _ => ?_
    split_ifs
    · exact maintains_throw _
    · exact maintains_pure ()
  dsimp only
  split
  · exact Maintains.bind (maintains_throw _) fun _ => hrest
  · exact hrest

theorem housed_enterSlot (m : Moment Time) (name : String) :
    Maintains Housed (enterSlot m name) := by
  refine maintains_requireSlots_bind fun s slots hs hslots => ?_
  refine maintains_lift_bind hs fun taken _ => ?_
  split_ifs
  · exact housed_loadSlot m name s hs
  refine maintains_lift_bind hs fun cleaned hcleaned => ?_
  have hall : (slots.setLastUsed (some cleaned)).All Slots.IsClean := hs.clean slots hslots
  refine housed_of_stocked ?_ hs hslots
  refine Maintains.bind (maintains_modify fun t ht => ?_) fun _ => ?_
  · exact Housed.withName ht rfl rfl (Slots.cleanName_of_cleanName hcleaned)
  refine Maintains.bind ((housed_putSlots hall).and (stocked_putSlots _)) fun _ => ?_
  exact housed_persist.and stocked_persist

theorem housed_enter (m : Moment Time) (slotName : Option String) :
    Maintains Housed (enter m slotName) := by
  have hrest : Maintains Housed (revalidate >>= fun _ => record "Initial" : Action Time Unit) :=
    quiet_revalidate.housed.bind fun _ => (quiet_record _).housed
  refine maintains_get.bind fun s => ?_
  cases initialSlot s.slots slotName with
  | none => exact hrest
  | some name => exact (housed_enterSlot m name).bind fun _ => hrest

theorem housed_start {slots : Option Slots} (hall : ∀ slots' ∈ slots, slots'.All Slots.IsClean)
    {m : Moment Time} {settings : Settings} {delay : Time} {slotName : Option String}
    {s s' : Session Time} (hblank : blank m settings delay slots = .ok s)
    (henter : s.Yields (enter m slotName) () s') : s'.Housed := by
  obtain ⟨history, -, h⟩ := bind_eq_ok_iff.1 hblank
  obtain rfl := Except.ok.inj h
  have hleft : s' = (run _ (enter m slotName)).2 := (congrArg Prod.snd henter).symm
  rw [hleft]
  refine housed_enter m slotName _ ⟨fun name hname => ?_, hall⟩
  cases hname

/-! ### Visited sessions -/

section visited

variable [Add Time] [LT Time] [DecidableLT Time]

/-- **Every call leaves a session housed**, whether it answers or fails. -/
theorem housed_call (m : Moment Time) (call : Call) : Maintains Housed (call.action m) := by
  cases call with
  | perform operation => exact (housed_perform m operation).map _
  | edit operation => exact (housed_edit m operation).map _
  | copyNode id => exact (quiet_copyNode id).housed.map _
  | pasteNode => exact (housed_pasteNode m).map _
  | poll => exact (quiet_poll m).housed.map _
  | undo => exact (housed_travel m _).map _
  | redo => exact (housed_travel m _).map _
  | jump index => exact (housed_travel m _).map _
  | importText text => exact housed_importBy _ m _
  | importBytes bytes => exact housed_importBy _ m _
  | openSlot name => exact housed_openSlot m name
  | newSlot name => exact housed_newSlot m name
  | renameSlot old new => exact housed_renameSlot old new
  | deleteSlot name => exact housed_deleteSlot name

/-- The sessions that are visited from a store on, if calls may fail. -/
inductive Visited (slots : Option Slots) : Session Time → Prop
  | start {m : Moment Time} {settings : Settings} {delay : Time} {slotName : Option String}
      {s s' : Session Time} (hblank : blank m settings delay slots = .ok s)
      (henter : s.Yields (enter m slotName) () s') : Visited slots s'
  | call {m : Moment Time} {s : Session Time} (hs : Visited slots s) (call : Call) :
      Visited slots (s.run (call.action m)).2

/-- **Every visited session is housed**, if the names in the store were clean at the start. -/
theorem Visited.housed {slots : Option Slots} (hall : ∀ slots' ∈ slots, slots'.All Slots.IsClean)
    {s : Session Time} (h : Visited slots s) : s.Housed := by
  induction h with
  | start hblank henter => exact housed_start hall hblank henter
  | call _ call ih => exact housed_call _ call _ ih

end visited

theorem visited_started : Visited (some emptyStore) started :=
  have hblank : blank epoch briefSettings 1 (some emptyStore) = .ok unentered := rfl
  .start (m := epoch) hblank (yields_of_isOk (by decide +kernel))

end BehaviorTree.Session
