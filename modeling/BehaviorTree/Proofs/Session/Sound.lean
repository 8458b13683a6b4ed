import BehaviorTree.Proofs.Document.Saved
import BehaviorTree.Proofs.History
import BehaviorTree.Proofs.Session.Steps

/-! # Sessions whose parts agree

A session holds its document four times: as the graph, in the report of its validation, in its
history and in its slot.  It is sound when these agree (`Sound`).  In the midst of a call they need
not; what holds even then is that each of them may be used (`Intact`).  A change leaves an intact
session whose report and slot are those of its graph (`Settled`), and recording the graph makes it
sound again. -/

namespace BehaviorTree

/-- A graph that can be returned to: it may be under edit, and its validation has a report. -/
structure Graph.Restorable (g : Graph) : Prop where
  editable : g.Editable
  validates : ∃ report, g.validate true = .ok report

namespace Session

open BehaviorTree.Graph

variable {Time : Type}

/-! ### What is to agree -/

/-- A session whose parts may be used. -/
structure Intact (P : Slot → Prop) (s : Session Time) : Prop where
  editable : s.graph.Editable
  created : s.created.Valid
  modified : s.modified.Valid
  snapshots : ∀ entry ∈ s.history.entries, Restorable entry.graph
  length_le : s.history.entries.length ≤ s.history.capacity
  slots : ∀ slots ∈ s.slots, slots.All P

/-- The report is that of the graph. -/
def Reported (s : Session Time) : Prop := s.graph.validate true = .ok s.report

/-- The slot of the session, if it has one, is in its store and keeps the graph. -/
def Saved (s : Session Time) : Prop :=
  ∀ name ∈ s.slotName, Slots.cleanName name = .ok name ∧
    ∃ slots slot, s.slots = some slots ∧ slots.find? name = some slot ∧ Keeps slot.payload s.graph

/-- The history points to an entry, and if no edit waits this is the graph. -/
def Recorded (s : Session Time) : Prop :=
  ∃ entry, s.history.current? = some entry ∧ (s.debouncer.pending = none → entry.graph = s.graph)

/-- A session whose parts agree. -/
structure Sound (P : Slot → Prop) (s : Session Time) : Prop extends Intact P s where
  reported : s.Reported
  saved : s.Saved
  recorded : s.Recorded

variable {P : Slot → Prop} {s s' : Session Time} {m : Moment Time}

theorem Saved.bound (h : s.Saved) : s.Bound := by
  intro name hname
  obtain ⟨hclean, slots, slot, hslots, -, -⟩ := h name hname
  exact ⟨by rw [hslots]; rfl, hclean⟩

/-! ### Recording -/

theorem Intact.recorded (h : s.Intact P) (hr : s.Reported) (label : String) :
    (s.recorded label).Intact P where
  editable := h.editable
  created := h.created
  modified := h.modified
  snapshots := by
    intro entry hentry
    rcases History.mem_of_mem_record hentry with hentry | rfl
    · exact h.snapshots entry hentry
    · exact ⟨h.editable, s.report, hr⟩
  length_le := History.length_record_le s.history _ h.length_le
  slots := h.slots

theorem Intact.sound_recorded (h : s.Intact P) (hr : s.Reported) (hs : s.Saved) (label : String) :
    (s.recorded label).Sound P :=
  ⟨h.recorded hr label, hr, hs, ⟨label, s.graph⟩, s.history.current?_record _, fun _ => rfl⟩

theorem Intact.sound_restarted (h : s.Intact P) (hr : s.Reported) (hs : s.Saved) (label : String) :
    (s.restarted label).Sound P := by
  have hreset : Intact P { s with history := s.history.reset } :=
    ⟨h.editable, h.created, h.modified, fun _ hentry => absurd hentry List.not_mem_nil,
      Nat.zero_le _, h.slots⟩
  exact hreset.sound_recorded hr hs label

@[simp] theorem flushed_graph (s : Session Time) : s.flushed.graph = s.graph := by
  unfold flushed
  split <;> rfl

@[simp] theorem flushed_slots (s : Session Time) : s.flushed.slots = s.slots := by
  unfold flushed
  split <;> rfl

@[simp] theorem flushed_slotName (s : Session Time) : s.flushed.slotName = s.slotName := by
  unfold flushed
  split <;> rfl

theorem Sound.flushed (h : s.Sound P) : s.flushed.Sound P := by
  unfold Session.flushed
  cases hlabel : s.debouncer.label? with
  | none =>
      have hpending : s.debouncer.pending = none := Option.map_eq_none_iff.1 hlabel
      obtain ⟨entry, hentry, hgraph⟩ := h.recorded
      exact ⟨⟨h.editable, h.created, h.modified, h.snapshots, h.length_le, h.slots⟩, h.reported,
        h.saved, entry, hentry, fun _ => hgraph hpending⟩
  | some label =>
      have hintact : Intact P { s with debouncer := s.debouncer.cancel } :=
        ⟨h.editable, h.created, h.modified, h.snapshots, h.length_le, h.slots⟩
      exact hintact.sound_recorded h.reported h.saved label

/-! ### Saving -/

/-- What saving leaves as it is, and what it brings about. -/
structure Persisted (P : Slot → Prop) (before after : Session Time) : Prop where
  intact : after.Intact P
  saved : after.Saved
  graph : after.graph = before.graph
  history : after.history = before.history
  debouncer : after.debouncer = before.debouncer
  report : after.report = before.report
  slotName : after.slotName = before.slotName
  isSome_slots : after.slots.isSome = before.slots.isSome

theorem Intact.persisted [Slots.Stable P] (h : s.Intact P) (hb : s.Bound) :
    s.Persisted P s.persisted := by
  unfold Session.persisted
  split
  · rename_i slots name hslots hname
    have hclean := (hb name hname).2
    refine ⟨⟨h.editable, h.created, h.modified, h.snapshots, h.length_le, ?_⟩, ?_, rfl, rfl, rfl,
      rfl, rfl, by rw [hslots]; rfl⟩
    · intro slots' hslots'
      obtain rfl := Option.some.inj hslots'
      exact (h.slots slots hslots).put (Slots.Stable.saved slots name _ hclean
        (h.editable.writable_ofGraph h.created h.modified))
    · intro name' hname'
      obtain rfl : name = name' := Option.some.inj (hname.symm.trans hname')
      exact ⟨hclean, _, slots.saved name s.document, rfl, Slots.find?_put_self _,
        Keeps.render h.editable h.created h.modified⟩
  · rename_i hnone
    refine ⟨h, ?_, rfl, rfl, rfl, rfl, rfl, rfl⟩
    intro name hname
    obtain ⟨slots, hslots⟩ := Option.isSome_iff_exists.1 (hb name hname).1
    exact (hnone slots name hslots hname).elim

/-- What a change settles: the report and the slot are those of the graph. -/
structure Settled (P : Slot → Prop) (before after : Session Time) : Prop where
  intact : after.Intact P
  reported : after.Reported
  saved : after.Saved
  graph : after.graph = before.graph
  history : after.history = before.history
  debouncer : after.debouncer = before.debouncer

/-- **What follows a change settles it.** -/
theorem Intact.settled [Slots.Stable P] (h : s.Intact P) (hb : s.Bound) (hm : m.now.Valid)
    (hafter : s.Yields (afterChange m) () s') : s.Settled P s' := by
  obtain ⟨report, hreport, rfl⟩ := (yields_afterChange_iff hb).1 hafter
  have hintact : Intact P { s with report := report, modified := m.now } :=
    ⟨h.editable, h.created, hm, h.snapshots, h.length_le, h.slots⟩
  have hp := hintact.persisted hb
  refine ⟨hp.intact, ?_, hp.saved, hp.graph, hp.history, hp.debouncer⟩
  rw [Reported, hp.graph, hp.report]
  exact hreport

theorem Settled.sound_recorded (h : s.Settled P s') (label : String) : (s'.recorded label).Sound P
    :=
  h.intact.sound_recorded h.reported h.saved label

theorem Settled.sound_restarted (h : s.Settled P s') (label : String) : (s'.restarted label).Sound P
    :=
  h.intact.sound_restarted h.reported h.saved label

/-! ### Changes -/

theorem Intact.withGraph (h : s.Intact P) {g : Graph} (hg : g.Editable) :
    Intact P { s with graph := g } :=
  ⟨hg, h.created, h.modified, h.snapshots, h.length_le, h.slots⟩

theorem Sound.perform [Slots.Stable P] (h : s.Sound P) (hm : m.now.Valid) {operation : Operation}
    {outcome : Outcome} (hp : s.Yields (perform m operation) outcome s') : s'.Sound P := by
  obtain ⟨g, hg, hp⟩ := yields_perform_iff.1 hp
  have hf := h.flushed
  split_ifs at hp with hchanges
  · obtain ⟨after, hafter, rfl⟩ := hp
    have hsettled := (hf.withGraph (hf.editable.apply hg)).settled hf.saved.bound hm hafter
    exact hsettled.sound_recorded _
  · obtain rfl := eq_of_unchanged hg (by simpa using hchanges)
    rw [hp]
    exact hf

theorem Sound.edit [Slots.Stable P] [Add Time] [LT Time] [DecidableLT Time] (h : s.Sound P)
    (hm : m.now.Valid) {operation : Operation} {outcome : Outcome}
    (he : s.Yields (edit m operation) outcome s') : s'.Sound P := by
  obtain ⟨before, g, after, hbefore, hg, hafter, rfl⟩ := of_yields_edit he
  have hb : before.Sound P := hbefore.elim (fun e => e ▸ h) (fun e => e ▸ h.flushed)
  have hs := (hb.withGraph (hb.editable.apply hg)).settled hb.saved.bound hm hafter
  have hi := hs.intact
  obtain ⟨entry, hentry, -⟩ := hb.recorded
  exact ⟨⟨hi.editable, hi.created, hi.modified, hi.snapshots, hi.length_le, hi.slots⟩, hs.reported,
    hs.saved, entry, by rw [hs.history]; exact hentry, nofun⟩

theorem Sound.poll [LT Time] [DecidableLT Time] (h : s.Sound P) {due : Bool}
    (hp : s.Yields (poll m) due s') : s'.Sound P :=
  (of_yields_poll hp).elim (fun e => e ▸ h) (fun e => e ▸ h.flushed)

theorem Sound.copyNode (h : s.Sound P) {id : ℤ} {node : Node} (hc : s.Yields (copyNode id) node s')
    : s'.Sound P := by
  simp only [Session.copyNode, yields_bind_iff, yields_get_iff, yields_lift_iff, yields_modify_iff,
    yields_pure_iff] at hc
  obtain ⟨_, _, ⟨rfl, rfl⟩, node', _, ⟨-, rfl⟩, _, _, rfl, -, rfl⟩ := hc
  exact ⟨⟨h.editable, h.created, h.modified, h.snapshots, h.length_le, h.slots⟩, h.reported,
    h.saved, h.recorded⟩

theorem Sound.pasteNode [Slots.Stable P] (h : s.Sound P) (hm : m.now.Valid)
    {outcome : Option Outcome} (hp : s.Yields (pasteNode m) outcome s') : s'.Sound P := by
  simp only [Session.pasteNode, yields_bind_iff, yields_get_iff, and_assoc, exists_and_left,
    exists_eq_left] at hp
  cases hclipboard : s.clipboard with
  | none =>
      simp only [hclipboard, yields_pure_iff] at hp
      rw [hp.2]
      exact h
  | some node =>
      simp only [hclipboard, yields_bind_iff, yields_pure_iff] at hp
      obtain ⟨outcome', after, hafter, -, rfl⟩ := hp
      exact h.perform hm hafter

/-! ### History -/

theorem Sound.travel [Slots.Stable P] (h : s.Sound P) (hm : m.now.Valid)
    {move : History Snapshot → Except Fault (Option Snapshot × History Snapshot)}
    (hmove : ∀ h : History Snapshot, h.index < h.entries.length → ∀ snapshot h',
      move h = .ok (snapshot, h') → h.Step snapshot h') {moved : Bool}
    (ht : s.Yields (travel m move) moved s') : s'.Sound P := by
  obtain ⟨snapshot, history, hmoved, ht⟩ := yields_travel_iff.1 ht
  have hf := h.flushed
  obtain ⟨entry, hentry, -⟩ := hf.recorded
  cases hmove _ (History.bounds_of_entry hentry).2 _ _ hmoved with
  | stay =>
      rw [ht.2]
      exact hf
  | @move index entry he =>
      have hsnapshot := hf.snapshots entry (History.mem_of_entry he)
      have hintact := Intact.withGraph (s := { s.flushed with
          history := { s.flushed.history with index := index } })
        ⟨hf.editable, hf.created, hf.modified, hf.snapshots, hf.length_le, hf.slots⟩
        hsnapshot.editable
      have hs := hintact.settled hf.saved.bound hm ht.2
      exact ⟨hs.intact, hs.reported, hs.saved, entry, by rw [hs.history]; exact he,
        fun _ => hs.graph.symm⟩

theorem Sound.undo [Slots.Stable P] (h : s.Sound P) (hm : m.now.Valid) {moved : Bool}
    (hu : s.Yields (undo m) moved s') : s'.Sound P :=
  h.travel hm (fun h hindex _ _ hmove => by
    obtain ⟨rfl, rfl⟩ := Prod.mk.inj (Except.ok.inj hmove)
    exact History.step_undo hindex) hu

theorem Sound.redo [Slots.Stable P] (h : s.Sound P) (hm : m.now.Valid) {moved : Bool}
    (hr : s.Yields (redo m) moved s') : s'.Sound P :=
  h.travel hm (fun h _ _ _ hmove => by
    obtain ⟨rfl, rfl⟩ := Prod.mk.inj (Except.ok.inj hmove)
    exact History.step_redo) hr

theorem Sound.jump [Slots.Stable P] (h : s.Sound P) (hm : m.now.Valid) {index : ℤ} {moved : Bool}
    (hj : s.Yields (jump m index) moved s') : s'.Sound P :=
  h.travel hm (fun h _ _ _ hmove => by
    obtain ⟨⟨entry, h'⟩, hj, heq⟩ := map_eq_ok_iff.1 hmove
    obtain ⟨rfl, rfl⟩ := Prod.mk.inj heq
    exact History.step_jump hj) hj

/-! ### Documents that are read -/

theorem editable_of_toGraph {d : Document} (hd : d.Writable) {g : Graph} (hg : d.toGraph = .ok g)
    (hsizes : (loggedSizes g).all Text.isWritable = true) : g.Editable :=
  .of_toGraph hd hg (List.all_eq_true.1 hsizes _ (by simp [loggedSizes]))

theorem valid_getD {o : Option Timestamp} (ho : ∀ t ∈ o, t.Valid) {t : Timestamp} (ht : t.Valid) :
    (o.getD t).Valid := by
  cases o with
  | none => exact ht
  | some t' => exact ho t' rfl

theorem Sound.importDocument [Slots.Stable P] (h : s.Sound P) (hm : m.now.Valid)
    {read : Except Fault Document} (hread : ∀ d, read = .ok d → d.Writable) {u : PUnit}
    (hi : s.Yields (importDocument m read) u s') : s'.Sound P := by
  simp only [Session.importDocument, importBy, yields_bind_iff, yields_lift_iff, yields_modify_iff,
    yields_load_iff, yields_restartHistory_iff, and_assoc, exists_and_left, exists_eq_left,
    exists_const] at hi
  obtain ⟨d, hd, _, ⟨g, hg, hsizes, rfl⟩, _, after, hafter, rfl⟩ := hi
  have hw := hread d hd
  have hintact : Intact P { s with
      debouncer := s.debouncer.cancel, graph := g, created := d.created.getD m.now } :=
    ⟨editable_of_toGraph hw hg hsizes, valid_getD hw.created hm, h.modified, h.snapshots,
      h.length_le, h.slots⟩
  have hplain := yields_afterChange_of_standard (s := { s with
    debouncer := s.debouncer.cancel, graph := g, created := d.created.getD m.now }) h.saved.bound
    hafter
  exact (hintact.settled h.saved.bound hm hplain).sound_restarted _

/-! ### Slots -/

/-- A slot that is loaded is the slot of the session, and keeps the graph. -/
theorem Intact.loadSlot [Slots.Stable P] (h : s.Intact P) (hm : m.now.Valid) {name : String}
    {u : PUnit} (hl : s.Yields (loadSlot m name) u s') : s'.Intact P ∧ s'.Saved := by
  obtain ⟨slots, d, g, hslots, hload, hg, hsizes, rfl⟩ := yields_loadSlot_iff.1 hl
  obtain ⟨slot, hslot, hparse⟩ := Slots.load_eq_ok_some hload
  have hw := (Document.writable_of_parse hparse).1
  have hall := h.slots slots hslots
  obtain ⟨hmem, rfl⟩ := Slots.mem_of_find? hslot
  refine ⟨⟨editable_of_toGraph hw hg hsizes, valid_getD hw.created hm,
    valid_getD hw.modified (valid_getD hw.created hm), h.snapshots, h.length_le, ?_⟩, ?_⟩
  · intro slots' hslots'
    obtain rfl := Option.some.inj hslots'
    exact hall
  · intro name hname
    obtain rfl : slot.name = name := Option.some.inj hname
    exact ⟨Slots.Stable.clean slot (hall slot hmem), _, slot, rfl, hslot, .of_parse hparse hg⟩

theorem Intact.withReport (h : s.Intact P) (report : Report) : Intact P { s with report := report }
    :=
  ⟨h.editable, h.created, h.modified, h.snapshots, h.length_le, h.slots⟩

theorem Sound.openSlot [Slots.Stable P] (h : s.Sound P) (hm : m.now.Valid) {name : String}
    {u : PUnit} (ho : s.Yields (openSlot m name) u s') : s'.Sound P := by
  have hf := h.flushed
  have hp := hf.persisted hf.saved.bound
  simp only [Session.openSlot, yields_bind_iff, yields_flushPending_iff, yields_revalidate_iff,
    yields_restartHistory_iff, exists_eq_left, exists_const, yields_persist_iff hf.saved.bound]
    at ho
  obtain ⟨_, loaded, hloaded, _, ⟨report, hreport, rfl⟩, rfl⟩ := ho
  obtain ⟨hintact, hsaved⟩ := hp.intact.loadSlot hm hloaded
  exact (hintact.withReport report).sound_restarted hreport hsaved _

theorem Sound.newSlot [Slots.Stable P] (h : s.Sound P) (hm : m.now.Valid) {name : String}
    {u : PUnit} (hn : s.Yields (newSlot m name) u s') : s'.Sound P := by
  have hf := h.flushed
  have hp := hf.persisted hf.saved.bound
  simp only [Session.newSlot, yields_bind_iff, yields_requireSlots_iff, yields_lift_iff, and_assoc,
    exists_and_left, exists_eq_left] at hn
  obtain ⟨slots, hslots, cleaned, hcleaned, taken, -, hn⟩ := hn
  split_ifs at hn with htaken
  · obtain ⟨_, _, hthrow, -⟩ := yields_bind_iff.1 hn
    exact (yields_throw_iff.1 hthrow).elim
  simp only [yields_bind_iff, yields_flushPending_iff, yields_persist_iff hf.saved.bound,
    yields_modify_iff, yields_requireSlots_iff, yields_putSlots_iff, yields_restartHistory_iff,
    and_assoc, exists_and_left, exists_eq_left, exists_const] at hn
  obtain ⟨slots', hslots', _, after, hafter, rfl⟩ := hn
  have hi := hp.intact
  have hintact : Intact P { s.flushed.persisted with
      graph := Graph.empty, slotName := some cleaned, created := m.now
      slots := some (slots'.setLastUsed (some cleaned)) } := by
    refine ⟨.empty, hm, hi.modified, hi.snapshots, hi.length_le, ?_⟩
    intro slots'' hslots''
    obtain rfl := Option.some.inj hslots''
    exact hi.slots slots' hslots'
  have hbound : Bound { s.flushed.persisted with
      graph := Graph.empty, slotName := some cleaned, created := m.now
      slots := some (slots'.setLastUsed (some cleaned)) } := by
    intro name' hname'
    obtain rfl := Option.some.inj hname'
    exact ⟨rfl, Slots.cleanName_of_cleanName hcleaned⟩
  exact (hintact.settled hbound hm hafter).sound_restarted _

theorem Sound.renameSlot [Slots.Stable P] (h : s.Sound P) {old new : String} {u : PUnit}
    (hr : s.Yields (renameSlot old new) u s') : s'.Sound P := by
  simp only [Session.renameSlot, yields_bind_iff, yields_requireSlots_iff, yields_lift_iff,
    yields_putSlots_iff, yields_get_iff, and_assoc, exists_and_left, exists_eq_left,
    exists_const] at hr
  obtain ⟨slots, hslots, slots', hrename, hr⟩ := hr
  obtain ⟨cleaned, hcleaned, hrenamed⟩ := Slots.renamed_of_rename hrename
  have hintact : Intact P { s with slots := some slots' } := by
    refine ⟨h.editable, h.created, h.modified, h.snapshots, h.length_le, ?_⟩
    intro slots'' hslots''
    obtain rfl := Option.some.inj hslots''
    exact (h.slots slots hslots).renamed hrenamed
  split_ifs at hr with hopen
  · -- the slot of the session keeps the document that was moved
    simp only [yields_bind_iff, yields_lift_iff, yields_modify_iff, hcleaned, and_assoc,
      exists_and_left, exists_eq_left, Except.ok.injEq, exists_eq_left'] at hr
    obtain ⟨-, slots'', slot, hslots'', hslot, hkeeps⟩ := h.saved old hopen
    obtain rfl : slots = slots'' := Option.some.inj (hslots.symm.trans hslots'')
    obtain ⟨slot', d, hslot', hparse, hfound⟩ := hrenamed.find?_cleaned
    obtain rfl : slot = slot' := Option.some.inj (hslot.symm.trans hslot')
    rw [hr]
    refine ⟨⟨hintact.editable, hintact.created, hintact.modified, hintact.snapshots,
      hintact.length_le, hintact.slots⟩, h.reported, ?_, h.recorded⟩
    intro name hname
    obtain rfl := Option.some.inj hname
    exact ⟨hrenamed.clean, slots', _, rfl, hfound, hkeeps.render_of_parse hparse⟩
  · rw [(yields_pure_iff.1 hr).2]
    refine ⟨hintact, h.reported, ?_, h.recorded⟩
    intro name hname
    obtain ⟨hclean, slots'', slot, hslots'', hslot, hkeeps⟩ := h.saved name hname
    obtain rfl : slots = slots'' := Option.some.inj (hslots.symm.trans hslots'')
    have hold : old ≠ name := fun e => hopen (e ▸ hname)
    have hcleaned : cleaned ≠ name := by
      rintro rfl
      rw [hrenamed.free hold.symm] at hslot
      cases hslot
    exact ⟨hclean, slots', slot, rfl, (hrenamed.find?_other hcleaned hold).trans hslot, hkeeps⟩

theorem Sound.deleteSlot (h : s.Sound P) {name : String} {u : PUnit}
    (hd : s.Yields (deleteSlot name) u s') : s'.Sound P := by
  simp only [Session.deleteSlot, yields_bind_iff, yields_requireSlots_iff, yields_get_iff,
    and_assoc, exists_and_left, exists_eq_left] at hd
  obtain ⟨slots, hslots, hd⟩ := hd
  by_cases hopen : s.slotName = some name
  · rw [if_pos hopen] at hd
    obtain ⟨_, _, hthrow, -⟩ := yields_bind_iff.1 hd
    exact (yields_throw_iff.1 hthrow).elim
  · rw [if_neg hopen] at hd
    simp only [yields_bind_iff, yields_putSlots_iff, exists_eq_left, exists_const] at hd
    split_ifs at hd
    · exact (yields_throw_iff.1 hd).elim
    rw [(yields_pure_iff.1 hd).2]
    refine ⟨⟨h.editable, h.created, h.modified, h.snapshots, h.length_le, ?_⟩, h.reported, ?_,
      h.recorded⟩
    · intro slots' hslots'
      obtain rfl := Option.some.inj hslots'
      exact (h.slots slots hslots).delete name
    · intro other hother
      obtain ⟨hclean, slots', slot, hslots', hslot, hkeeps⟩ := h.saved other hother
      obtain rfl : slots = slots' := Option.some.inj (hslots.symm.trans hslots')
      have hne : other ≠ name := fun e => hopen (e ▸ hother)
      exact ⟨hclean, _, slot, rfl, (Slots.find?_delete_of_ne hne).trans hslot, hkeeps⟩

/-! ### The start of a session -/

theorem intact_blank {settings : Settings} {delay : Time} {slots : Option Slots}
    (hm : m.now.Valid) (hall : ∀ slots' ∈ slots, slots'.All P)
    (hb : blank m settings delay slots = .ok s) : s.Intact P ∧ s.slotName = none := by
  obtain ⟨history, hhistory, h⟩ := bind_eq_ok_iff.1 hb
  obtain rfl := Except.ok.inj h
  unfold History.empty at hhistory
  split_ifs at hhistory
  obtain rfl := Except.ok.inj hhistory
  exact ⟨⟨.empty, hm, hm, fun _ hentry => absurd hentry List.not_mem_nil, Nat.zero_le _, hall⟩,
    rfl⟩

theorem Intact.enterSlot [Slots.Stable P] (h : s.Intact P) (hm : m.now.Valid) {name : String}
    {u : PUnit} (he : s.Yields (enterSlot m name) u s') : s'.Intact P ∧ s'.Saved := by
  simp only [Session.enterSlot, yields_bind_iff, yields_requireSlots_iff, yields_lift_iff,
    and_assoc, exists_and_left, exists_eq_left] at he
  obtain ⟨slots, hslots, taken, -, he⟩ := he
  split_ifs at he with htaken
  · exact h.loadSlot hm he
  · simp only [yields_bind_iff, yields_lift_iff, yields_modify_iff, yields_putSlots_iff,
      and_assoc, exists_and_left, exists_eq_left, exists_const] at he
    obtain ⟨cleaned, hcleaned, he⟩ := he
    have hintact : Intact P { s with
        slotName := some cleaned, slots := some (slots.setLastUsed (some cleaned)) } := by
      refine ⟨h.editable, h.created, h.modified, h.snapshots, h.length_le, ?_⟩
      intro slots' hslots'
      obtain rfl := Option.some.inj hslots'
      exact h.slots slots hslots
    have hbound : Bound { s with
        slotName := some cleaned, slots := some (slots.setLastUsed (some cleaned)) } := by
      intro name' hname'
      obtain rfl := Option.some.inj hname'
      exact ⟨rfl, Slots.cleanName_of_cleanName hcleaned⟩
    rw [(yields_persist_iff hbound).1 he]
    exact ⟨(hintact.persisted hbound).intact, (hintact.persisted hbound).saved⟩

/-- **A session that has been entered is sound.** -/
theorem sound_enter [Slots.Stable P] {settings : Settings} {delay : Time} {slots : Option Slots}
    (hm : m.now.Valid) (hall : ∀ slots' ∈ slots, slots'.All P)
    (hb : blank m settings delay slots = .ok s) {slotName : Option String} {u : PUnit}
    (he : s.Yields (enter m slotName) u s') : s'.Sound P := by
  obtain ⟨hintact, hname⟩ := intact_blank hm hall hb
  obtain ⟨entered, hentered, report, hreport, rfl⟩ := yields_enter_iff.1 he
  have hslot : entered.Intact P ∧ entered.Saved := by
    split at hentered
    · exact hintact.enterSlot hm hentered
    · rw [hentered]
      exact ⟨hintact, fun name hmem => by rw [hname] at hmem; cases hmem⟩
  exact (hslot.1.withReport report).sound_recorded hreport hslot.2 _

end Session
end BehaviorTree
