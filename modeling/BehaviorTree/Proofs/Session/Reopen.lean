import BehaviorTree.Proofs.Document.Validated
import BehaviorTree.Proofs.Session.Run

/-! # Opening a slot again

What a session saves in its slot can be opened again, and the graph comes back as it was, exactly if
its coordinates are finite, none of its attachment points is empty, and the store and the sizes of
the graph let the slot be loaded at all (`reopens_iff`).  A coordinate that is not finite is saved as
null, which is not read; an empty point comes back as the usual one. -/

namespace BehaviorTree

/-- No attachment point of a graph is empty. -/
def Graph.Pointed (g : Graph) : Prop :=
  ∀ c ∈ g.connections, c.fromPoint ≠ "" ∧ c.toPoint ≠ ""

/-- The document values of two graphs are equal, where the two zeros are. -/
def Graph.SameValue (g g' : Graph) : Prop :=
  Graph.toJson { g with nodes := g.nodes.map Node.plain } =
    Graph.toJson { g' with nodes := g'.nodes.map Node.plain }

theorem textOr_eq_self_iff {absent s : String} (h : absent ≠ "") :
    Graph.textOr absent s = s ↔ s ≠ "" := by
  unfold Graph.textOr
  split_ifs with hs
  · have hempty : s = "" := String.isEmpty_iff.1 hs
    simp [hempty, h]
  · simpa [String.isEmpty_iff] using hs

/-- What a document keeps of a graph has the value of the graph if no attachment point is empty. -/
theorem Graph.sameValue_kept_iff {g : Graph} : g.kept.SameValue g ↔ g.Pointed := by
  have hnodes : g.kept.nodes.map Node.plain = g.nodes.map Node.plain := by
    rw [kept, List.map_map]
    exact List.map_congr_left fun node _ => node.plain_plain
  rw [SameValue, hnodes]
  simp only [toJson, Json.list, kept, Json.object.injEq, List.cons.injEq, Prod.mk.injEq,
    Json.array.injEq, true_and, and_true, List.map_map]
  rw [List.map_inj_left, Pointed]
  refine forall_congr' fun c => imp_congr_right fun _ => ?_
  simp [Connection.plain, Connection.toJson, textOr_eq_self_iff]

namespace Session

open BehaviorTree.Graph

variable {Time : Type} {s s' : Session Time} {m : Moment Time} {settings : Settings}
  {delay : Time} {slots : Slots} {name : String}

/-- A new session that opens a slot of a store. -/
def Opens (m : Moment Time) (settings : Settings) (delay : Time) (slots : Slots) (name : String)
    (s' : Session Time) : Prop :=
  ∃ s, blank m settings delay (some slots) = .ok s ∧ s.Yields (enter m (some name)) () s'

/-- **A slot can be opened** if the store can be looked through and its text is read as a document
that can be loaded. -/
theorem exists_opens_iff (hcapacity : 0 < settings.historyCapacity) (hname : name ≠ "")
    {slot : Slot} (hslot : slots.find? name = some slot) {g : Graph} :
    (∃ s', Opens m settings delay slots name s' ∧ s'.graph = g) ↔
      slots.Listable ∧ ∃ d, Document.parse slot.payload = .ok d ∧ d.toGraph = .ok g ∧
        (loggedSizes g).all Text.isWritable = true ∧ ∃ report, g.validate true = .ok report := by
  obtain ⟨s, hblank, hslots⟩ : ∃ s : Session Time,
      blank m settings delay (some slots) = .ok s ∧ s.slots = some slots := by
    have hpos : 0 < settings.historyCapacity.toNat := by omega
    refine ⟨_, bind_eq_ok_iff.2 ⟨_, dif_pos hpos, rfl⟩, rfl⟩
  have hinitial : initialSlot s.slots (some name) = some name := by
    simp [initialSlot, hslots, hname]
  have hcontains : slots.contains name = true := Slots.contains_iff.2 ⟨slot, hslot⟩
  have hload : ∀ d, slots.load name = .ok (some d) ↔ Document.parse slot.payload = .ok d := by
    intro d
    rw [Slots.load, hslot]
    simp only [map_eq_ok_iff, Option.some.injEq, exists_eq_right]
  have henter : ∀ entered, s.Yields (enterSlot m name) () entered ↔
      slots.Listable ∧ s.Yields (loadSlot m name) () entered := by
    intro entered
    simp only [enterSlot, yields_bind_iff, yields_requireSlots_iff, yields_lift_iff, and_assoc,
      exists_and_left, exists_eq_left, hslots, Option.some.injEq, exists_eq_left',
      Slots.isTaken_eq_ok_iff, hcontains, if_true]
  constructor
  · rintro ⟨s', ⟨s'', hblank', hs'⟩, rfl⟩
    obtain rfl : s = s'' := Except.ok.inj (hblank.symm.trans hblank')
    obtain ⟨entered, hentered, report, hreport, rfl⟩ := yields_enter_iff.1 hs'
    simp only [hinitial, henter] at hentered
    obtain ⟨slots', d, g, hslots', hd, hg, hall, rfl⟩ := yields_loadSlot_iff.1 hentered.2
    obtain rfl : slots = slots' := Option.some.inj (hslots.symm.trans hslots')
    exact ⟨hentered.1, d, (hload d).1 hd, hg, hall, report, hreport⟩
  · rintro ⟨hlistable, d, hd, hg, hall, report, hreport⟩
    obtain ⟨entered, hentered, rfl⟩ :
        ∃ entered, s.Yields (loadSlot m name) () entered ∧ entered.graph = g :=
      ⟨_, yields_loadSlot_iff.2 ⟨slots, d, g, hslots, (hload d).2 hd, hg, hall, rfl⟩, rfl⟩
    refine ⟨_, ⟨s, hblank, yields_enter_iff.2 ⟨entered, ?_, report, hreport, rfl⟩⟩, rfl⟩
    simp only [hinitial, henter]
    exact ⟨hlistable, hentered⟩

theorem loggedSizes_kept (g : Graph) : loggedSizes g.kept = loggedSizes g := by
  simp [loggedSizes, kept]

/-- A session that opens the slot of a sound one has what a document keeps of the graph, and this
has finite coordinates. -/
theorem Sound.kept_of_opens (h : s.Sound Slots.IsWritten) (hslots : s.slots = some slots)
    (hname : s.slotName = some name) (hcapacity : 0 < settings.historyCapacity)
    (ho : Opens m settings delay slots name s') :
    s'.graph = s.graph.kept ∧ s.graph.Finite ∧ slots.Listable ∧
      (loggedSizes s.graph).all Text.isWritable = true := by
  obtain ⟨hclean, slots', slot, hslots', hslot, hkeeps⟩ := h.saved name hname
  obtain rfl : slots = slots' := Option.some.inj (hslots.symm.trans hslots')
  obtain ⟨hlistable, d, hd, hg, hall, -⟩ :=
    (exists_opens_iff hcapacity (Slots.ne_empty_of_cleanName hclean) hslot).1 ⟨s', ho, rfl⟩
  have hkept : s'.graph = s.graph.kept := Except.ok.inj (hg.symm.trans (hkeeps.toGraph hd))
  obtain ⟨-, d', hd', hpayload⟩ := h.slots slots hslots slot (Slots.mem_of_find? hslot).1
  rw [hpayload] at hkeeps hd
  rw [hkept, loggedSizes_kept] at hall
  exact ⟨hkept, hkeeps.finite hd' hd, hlistable, hall⟩

/-- **When a slot can be opened again**: on a store whose slots were saved, a new session opens the
slot of a session of a run with a graph of the same value exactly if the coordinates of the graph are
finite, none of its attachment points is empty, the store can be looked through, and the sizes of the
graph can be written. -/
theorem reopens_iff [Add Time] [LT Time] [DecidableLT Time] {store : Option Slots}
    (hwritten : ∀ slots ∈ store, slots.All Slots.IsWritten) (h : Reached store s)
    (hslots : s.slots = some slots) (hname : s.slotName = some name)
    (hcapacity : 0 < settings.historyCapacity) :
    (∃ s', Opens m settings delay slots name s' ∧ s'.graph.SameValue s.graph) ↔
      s.graph.Finite ∧ s.graph.Pointed ∧ slots.Listable ∧
        (loggedSizes s.graph).all Text.isWritable = true := by
  have hs := h.sound hwritten
  constructor
  · rintro ⟨s', ho, hsame⟩
    obtain ⟨hkept, hfinite, hlistable, hall⟩ := hs.kept_of_opens hslots hname hcapacity ho
    rw [hkept] at hsame
    exact ⟨hfinite, sameValue_kept_iff.1 hsame, hlistable, hall⟩
  · rintro ⟨hfinite, hpointed, hlistable, hall⟩
    obtain ⟨hclean, slots', slot, hslots', hslot, hkeeps⟩ := hs.saved name hname
    obtain rfl : slots = slots' := Option.some.inj (hslots.symm.trans hslots')
    obtain ⟨d, hd, hg⟩ := hkeeps.exists_parse hfinite
    have hreport : s.graph.kept.validate true = .ok s.report := by
      rw [validate_kept]
      exact hs.reported
    obtain ⟨s', ho, hgraph⟩ :=
      (exists_opens_iff hcapacity (Slots.ne_empty_of_cleanName hclean) hslot).2
        ⟨hlistable, d, hd, hg, (loggedSizes_kept s.graph).symm ▸ hall, s.report, hreport⟩
    exact ⟨s', ho, by rw [hgraph]; exact sameValue_kept_iff.2 hpointed⟩

theorem reopens_iff_withAction : ∃ slots, withAction.slots = some slots ∧
    ∃ s', Opens epoch briefSettings 1 slots "a" s' ∧ s'.graph.SameValue withAction.graph := by
  obtain ⟨slots, hslots⟩ := Option.isSome_iff_exists.1
    (show withAction.slots.isSome = true by decide +kernel)
  have hlistable : ∀ slots ∈ withAction.slots, slots.Listable := by
    unfold Slots.Listable
    decide +kernel
  refine ⟨slots, hslots, (reopens_iff all_emptyStore reached_withAction hslots (by decide +kernel)
    (by decide)).2 ⟨?_, ?_, hlistable slots hslots, ?_⟩⟩
  · unfold Graph.Finite
    decide +kernel
  · unfold Graph.Pointed
    decide +kernel
  · decide +kernel

/-- A session that has imported an action that is infinitely far to the right. -/
def withInfinity : Session ℕ := started.after epoch
  [.importText "\x7b\"nodes\": [\x7b\"id\": 1, \"type\": \"ACTION\", \"x\": 1e999\x7d]\x7d"]

/-- **A session may save what cannot be opened again.** -/
theorem not_reopens_withInfinity : Reached (some emptyStore) withInfinity ∧
    withInfinity.slotName = some "a" ∧ ∃ slots, withInfinity.slots = some slots ∧
      ¬ ∃ s', Opens epoch briefSettings 1 slots "a" s' := by
  have hreached : Reached (some emptyStore) withInfinity :=
    reached_started.after valid_epoch (by decide +kernel)
  have hname : withInfinity.slotName = some "a" := by decide +kernel
  obtain ⟨slots, hslots⟩ := Option.isSome_iff_exists.1
    (show withInfinity.slots.isSome = true by decide +kernel)
  refine ⟨hreached, hname, slots, hslots, ?_⟩
  rintro ⟨s', ho⟩
  have hs := hreached.sound (P := Slots.IsWritten) all_emptyStore
  have hfinite := (hs.kept_of_opens hslots hname (by decide) ho).2.1
  revert hfinite
  unfold Graph.Finite
  decide +kernel

end Session
end BehaviorTree
