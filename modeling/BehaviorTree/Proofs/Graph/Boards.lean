import BehaviorTree.Proofs.Graph.TreeShape

/-! # Blackboards above roots

A blackboard is meant to stand only above a root: a node with a blackboard above it has no other
parents.  The check on a new connection looks at this from the blackboard's side, so a connection
from another node to one below a blackboard is accepted (`AddsLateParent`), and the node is a root no
longer.

That is the only way to lose the property: without imports, all graphs of a run have it exactly when
no call of the run adds a late parent (`boardsOnRoots_iff`). -/

namespace BehaviorTree

namespace Graph

/-- A node below a blackboard has only blackboards above it. -/
def BoardsOnRoots (g : Graph) : Prop :=
  ∀ c ∈ g.connections, ∀ d ∈ g.connections, c.target = d.target → g.FromBoard c → g.FromBoard d

/-- An operation connects a node that is no blackboard to one that a blackboard is above of, and the
graph accepts it. -/
def AddsLateParent (g : Graph) : Operation → Prop
  | .connect source target _ _ =>
    g.checkConnect source target = none ∧
      (∀ parent, g.find? source = some parent → parent.kind ≠ .blackboard) ∧
      ∃ c ∈ g.connections, c.target = target ∧ g.FromBoard c
  | _ => False

variable {g g' : Graph}

/-- On distinct ids, where a connection comes from shows in the ids and kinds of the nodes. -/
theorem WellFormed.fromBoard_iff (h : g.WellFormed) (c : Connection) :
    g.FromBoard c ↔ (c.source, NodeKind.blackboard) ∈ g.nodes.map Node.signature := by
  constructor
  · rintro ⟨parent, hp, hk⟩
    obtain ⟨hm, hid⟩ := mem_of_find? hp
    refine List.mem_map.2 ⟨parent, hm, ?_⟩
    rw [Node.signature, hid, hk]
  · intro hm
    obtain ⟨parent, hm, he⟩ := List.mem_map.1 hm
    obtain ⟨hid, hk⟩ := Prod.mk.inj he
    exact ⟨parent, hid ▸ h.find?_of_mem hm, hk⟩

namespace BoardsOnRoots

theorem empty : Graph.empty.BoardsOnRoots := fun _ h => absurd h List.not_mem_nil

/-- The property stays when connections go and the nodes that others leave keep their kinds. -/
theorem mono (h : g.BoardsOnRoots) (hw : g.WellFormed) (hw' : g'.WellFormed)
    (hends : g'.EndsWithin g)
    (hkind : ∀ c ∈ g'.connections, (c.source, NodeKind.blackboard) ∈ g'.nodes.map Node.signature ↔
      (c.source, NodeKind.blackboard) ∈ g.nodes.map Node.signature) :
    g'.BoardsOnRoots := by
  intro c hc d hd he hboard
  obtain ⟨c', hc', hcs, hct⟩ := hends.edge ⟨c, hc, rfl, rfl⟩
  obtain ⟨d', hd', hds, hdt⟩ := hends.edge ⟨d, hd, rfl, rfl⟩
  rw [hw'.fromBoard_iff, hkind c hc, ← hcs, ← hw.fromBoard_iff] at hboard
  rw [hw'.fromBoard_iff, hkind d hd, ← hds, ← hw.fromBoard_iff]
  exact h c' hc' d' hd' (hct.trans (he.trans hdt.symm)) hboard

theorem connect (h : g.BoardsOnRoots) {c : Connection}
    (hc : g.checkConnect c.source c.target = none)
    (hlate : ¬ g.AddsLateParent (.connect c.source c.target c.fromPoint c.toPoint)) :
    BoardsOnRoots { g with connections := g.connections ++ [c] } := by
  obtain ⟨source, target, hs, ht, hadmits⟩ := (checkConnect_eq_none_iff_admits g _ _).1 hc
  have htid := (mem_of_find? ht).2
  intro a ha b hb he hboard
  rcases List.mem_append.1 ha with ha | ha <;> rcases List.mem_append.1 hb with hb | hb
  · exact h a ha b hb he hboard
  · -- The new connection comes beside one from a blackboard, so its source is one too.
    rw [List.mem_singleton.1 hb] at he ⊢
    by_contra hnone
    refine hlate ⟨hc, fun parent hp hk => hnone ⟨parent, hp, hk⟩, a, ha, he, hboard⟩
  · -- The new connection comes from a blackboard: the check has seen the others.
    rw [List.mem_singleton.1 ha] at he hboard
    obtain ⟨parent, hp, hk⟩ := hboard
    obtain rfl : parent = source := Option.some.inj (hp.symm.trans hs)
    exact hadmits.attachable hk b hb (he.symm.trans htid.symm)
  · rw [List.mem_singleton.1 ha] at hboard
    rw [List.mem_singleton.1 hb]
    exact hboard

theorem of_effect (h : g.BoardsOnRoots) (hw : g.WellFormed) {operation : Operation}
    (he : Effect g operation g') (hlate : ¬ g.AddsLateParent operation) : g'.BoardsOnRoots := by
  have hw' := hw.of_effect he
  cases he with
  | edit hs => exact h.mono hw hw' hs.endsWithin fun c _ => by rw [hs.nodes]
  | append node hid _ =>
      refine h.mono hw hw' (.refl _) fun c hc => ?_
      have hnew : (c.source, NodeKind.blackboard) ≠ node.signature :=
        fun he => (hw.ne_of_fresh hid hc).1 (congrArg Prod.fst he)
      simp [Graph.append, hnew]
  | delete id =>
      refine h.mono hw hw' (endsWithin_detach g id _) fun c hc => ?_
      obtain ⟨-, -, -, -, hne, -⟩ := WellFormed.exists_of_mem_detach hc
      constructor
      · intro hm
        obtain ⟨node, hm, he⟩ := List.mem_map.1 hm
        exact List.mem_map.2 ⟨node, (List.mem_filter.1 hm).1, he⟩
      · intro hm
        obtain ⟨node, hm, he⟩ := List.mem_map.1 hm
        have hid : node.id = c.source := congrArg Prod.fst he
        exact List.mem_map.2 ⟨node, List.mem_filter.2 ⟨hm, by simpa [hid] using hne⟩, he⟩
  | connect c hc ho => exact h.connect hc hlate
  | disconnect id => exact h.mono hw hw' (endsWithin_detach g id _) fun _ _ => Iff.rfl
  | exchange parent i j hi hj =>
      exact h.mono hw hw' (endsWithin_exchange g parent i j) fun _ _ => Iff.rfl
  | clear => exact .empty

end BoardsOnRoots

/-- A late parent stands beside a blackboard above the same node. -/
theorem AddsLateParent.not_boardsOnRoots {operation : Operation}
    (h : g.AddsLateParent operation) : ¬ (operation.apply g).2.BoardsOnRoots := by
  cases operation with
  | connect source target fromPoint toPoint =>
      obtain ⟨hnone, hkind, c, hc, ht, hboard⟩ := h
      simp only [Operation.graph_apply, Operation.carryOut, Graph.connect, hnone]
      intro hroots
      obtain ⟨parent, hp, hk⟩ := hroots c (List.mem_append_left _ hc)
        ⟨source, target, g.childCount source, fromPoint, toPoint⟩ (by simp) ht hboard
      exact hkind parent hp hk
  | _ => exact h.elim

/-- **Which operations keep blackboards above roots.** -/
theorem boardsOnRoots_apply_iff (hw : g.WellFormed) (h : g.BoardsOnRoots) (operation : Operation) :
    (operation.apply g).2.BoardsOnRoots ↔ ¬ g.AddsLateParent operation :=
  ⟨fun hroots hlate => hlate.not_boardsOnRoots hroots,
    fun hlate => h.of_effect hw (effect_apply hw.ids_nodup operation) hlate⟩

end Graph

/-- **When blackboards stay above roots**: without imports, all graphs of a run have blackboards
above roots only, exactly when no call of the run connects a node that is no blackboard to one below
a blackboard. -/
theorem boardsOnRoots_iff (calls : List Call) (hload : ∀ call ∈ calls, call.isLoad = false) :
    (∀ before, before <+: calls → (Run.after before).graph.BoardsOnRoots) ↔
      ∀ before operation, before ++ [.operate operation] <+: calls →
        ¬ (Run.after before).graph.AddsLateParent operation := by
  constructor
  · intro h before operation hp hlate
    have hnext := h _ hp
    rw [Run.after_append] at hnext
    exact hlate.not_boardsOnRoots hnext
  · intro h before hb
    have hall : (Run.after before).Holds Graph.BoardsOnRoots := by
      refine Run.holds_after .empty before (fun first operation hp hfirst => ?_) ?_
      · have hw := (Run.holds_wellFormed first).1
        exact (Graph.boardsOnRoots_apply_iff hw hfirst.1 operation).2
          (h first operation (hp.trans hb))
      · intro value g hm _
        exact absurd (hload _ (hb.subset hm)) Bool.noConfusion
    exact hall.1

/-- A sequence is put above an action that a blackboard is above of already. -/
def hiddenRoot : List Call :=
  [.create .blackboard, .create .action, .create .sequence, .join 1 2, .join 3 2]

/-- The nodes of that run, with some connections. -/
def boardActionSequence (connections : List Connection) : Graph where
  nodes := [Graph.freshNode 1 .blackboard "" (clampPosition 0 0),
    Graph.freshNode 2 .action "" (clampPosition 0 0),
    Graph.freshNode 3 .sequence "" (clampPosition 0 0)]
  connections := connections
  nextId := 4

theorem boardsOnRoots_iff_hiddenRoot :
    (∀ call ∈ hiddenRoot, call.isLoad = false) ∧
      ((∀ before, before <+: hiddenRoot → (Run.after before).graph.BoardsOnRoots) ↔
        ∀ before operation, before ++ [.operate operation] <+: hiddenRoot →
          ¬ (Run.after before).graph.AddsLateParent operation) :=
  ⟨by decide, boardsOnRoots_iff hiddenRoot (by decide)⟩

/-- **A blackboard above a node that is not a root**: both connections are accepted. -/
theorem not_boardsOnRoots_hiddenRoot :
    (∀ call ∈ hiddenRoot, call.isLoad = false) ∧
      ¬ (Run.after hiddenRoot).graph.BoardsOnRoots := by
  have hcreated : (Run.after [.create .blackboard, .create .action, .create .sequence]).graph =
      boardActionSequence [] := by
    simp only [Run.after, List.foldl, Run.step, Call.result_create]
    rfl
  have hfirst : (boardActionSequence []).checkConnect 1 2 = none := by
    simp [boardActionSequence, Graph.checkConnect, Graph.find?, Graph.freshNode, Graph.refusal?,
      NodeKind.isSingleChild, NodeKind.isLeaf, Graph.isAttachable, Graph.incoming, Graph.reaches,
      preorder, Graph.sources]
  have hsecond : (boardActionSequence [⟨1, 2, 0, "right", "left"⟩]).checkConnect 3 2 = none := by
    simp [boardActionSequence, Graph.checkConnect, Graph.find?, Graph.freshNode, Graph.refusal?,
      NodeKind.isSingleChild, NodeKind.isLeaf, Graph.reaches, preorder, Graph.sources]
  have hrun : (Run.after hiddenRoot).graph =
      boardActionSequence [⟨1, 2, 0, "right", "left"⟩, ⟨3, 2, 0, "right", "left"⟩] :=
    Run.graph_after_join (Run.graph_after_join hcreated hfirst) hsecond
  refine ⟨by decide, fun h => ?_⟩
  rw [hrun] at h
  obtain ⟨parent, hp, hk⟩ := h ⟨1, 2, 0, "right", "left"⟩ (by simp [boardActionSequence])
    ⟨3, 2, 0, "right", "left"⟩ (by simp [boardActionSequence]) rfl ⟨_, rfl, rfl⟩
  obtain rfl := Option.some.inj hp
  cases hk

end BehaviorTree
