import BehaviorTree.Proofs.Graph.WellFormed

/-! # Tree shape

What `connect` asks of one connection, the graph of a run has as a whole: no cycle, at most one child
below decorators and subtree holders, none below conditions and actions, and no parent above a
subtree holder (`treeShaped_after`).  The numbers of children are those of the graph as it is, so
every later edit has to keep them too.

Imported documents are not checked for this; runs are taken without them. -/

namespace BehaviorTree

open Relation (ReflTransGen TransGen)

namespace Graph

/-- The shape of the trees that connecting node by node builds. -/
structure TreeShaped (g : Graph) : Prop where
  acyclic : g.Acyclic
  single : ∀ node ∈ g.nodes, node.kind = .decorator ∨ node.kind = .subtree →
    g.childCount node.id ≤ 1
  leaf : ∀ node ∈ g.nodes, node.kind = .condition ∨ node.kind = .action →
    g.childCount node.id = 0
  placed : ∀ node ∈ g.nodes, node.kind = .subtree → ∀ c ∈ g.connections, c.target ≠ node.id

variable {g g' : Graph}

/-! ### Ends -/

theorem edge_iff_mem_ends {a b : Int} : g.Edge a b ↔ (a, b) ∈ g.connections.map Connection.ends := by
  simp [Edge, Connection.ends]

theorem childCount_eq_countP_ends (id : Int) :
    g.childCount id = (g.connections.map Connection.ends).countP fun e => e.1 = id := by
  rw [childCount, List.countP_map]
  rfl

theorem length_children_le (g : Graph) (id : Int) : (g.children id).length ≤ g.childCount id := by
  have hown : (g.outgoing id).length = g.childCount id :=
    (sortByOrder_perm _).length_eq.trans (length_siblings g id)
  exact (List.length_filterMap_le _ _).trans hown.le

/-- The ends of the connections of one graph are among those of another, counted with
multiplicity. -/
def EndsWithin (g' g : Graph) : Prop :=
  (g'.connections.map Connection.ends).Subperm (g.connections.map Connection.ends)

theorem EndsWithin.edge (h : g'.EndsWithin g) {a b : Int} (he : g'.Edge a b) : g.Edge a b :=
  edge_iff_mem_ends.2 (h.subset (edge_iff_mem_ends.1 he))

theorem EndsWithin.childCount_le (h : g'.EndsWithin g) (id : Int) :
    g'.childCount id ≤ g.childCount id := by
  rw [childCount_eq_countP_ends, childCount_eq_countP_ends]
  exact h.countP_le _

theorem SameShape.endsWithin (h : SameShape g g') : g'.EndsWithin g := by
  unfold EndsWithin
  rw [h.connections]

theorem endsWithin_detach (g : Graph) (id : Int) (nodes : List Node) :
    EndsWithin { g with nodes := nodes, connections := detach g.connections id } g :=
  (ends_detach g.connections id).subperm.trans (List.filter_sublist.map _).subperm

theorem endsWithin_exchange (g : Graph) (parent a b : Int) :
    EndsWithin { g with connections := gather parent (exchangeBelow parent a b g.connections) } g := by
  unfold EndsWithin
  rw [← map_ends_exchangeBelow parent a b g.connections]
  exact ((gather_perm parent _).map _).subperm

/-- No connection touches a node that has just been appended. -/
theorem WellFormed.ne_of_fresh (h : g.WellFormed) {id : Int} (hid : id = g.nextId)
    {c : Connection} (hc : c ∈ g.connections) : c.source ≠ id ∧ c.target ≠ id := by
  have hlt : ∀ a ∈ g.nodes.map (·.id), a ≠ id := by
    intro a ha
    obtain ⟨node, hm, rfl⟩ := List.mem_map.1 ha
    have := h.ids_lt node hm
    omega
  obtain ⟨hs, ht⟩ := h.joined c hc
  exact ⟨hlt _ hs, hlt _ ht⟩

/-! ### What each effect keeps -/

namespace TreeShaped

theorem empty : Graph.empty.TreeShaped where
  acyclic := by
    intro id hp
    obtain ⟨b, ⟨c, hc, -⟩, -⟩ := TransGen.head'_iff.1 hp
    exact absurd hc List.not_mem_nil
  single := fun _ h => absurd h List.not_mem_nil
  leaf := fun _ h => absurd h List.not_mem_nil
  placed := fun _ h => absurd h List.not_mem_nil

/-- A graph keeps its shape when connections go and nodes go or change their attributes. -/
theorem mono (h : g.TreeShaped) (hends : g'.EndsWithin g)
    (hnodes : ∀ node ∈ g'.nodes, node.signature ∈ g.nodes.map Node.signature) :
    g'.TreeShaped := by
  have hold : ∀ node ∈ g'.nodes, ∃ old ∈ g.nodes, old.id = node.id ∧ old.kind = node.kind := by
    intro node hm
    obtain ⟨old, ho, he⟩ := List.mem_map.1 (hnodes node hm)
    exact ⟨old, ho, congrArg Prod.fst he, congrArg Prod.snd he⟩
  refine ⟨h.acyclic.mono fun a b => hends.edge, fun node hm hk => ?_, fun node hm hk => ?_,
    fun node hm hk c hc => ?_⟩
  · obtain ⟨old, ho, hid, hkind⟩ := hold node hm
    have := h.single old ho (by rwa [hkind])
    have := hends.childCount_le node.id
    rw [hid] at *
    omega
  · obtain ⟨old, ho, hid, hkind⟩ := hold node hm
    have := h.leaf old ho (by rwa [hkind])
    have := hends.childCount_le node.id
    rw [hid] at *
    omega
  · obtain ⟨old, ho, hid, hkind⟩ := hold node hm
    obtain ⟨d, hd, -, ht⟩ := hends.edge ⟨c, hc, rfl, rfl⟩
    rw [← ht, ← hid]
    exact h.placed old ho (by rwa [hkind]) d hd

theorem append (h : g.TreeShaped) (hw : g.WellFormed) {node : Node} (hid : node.id = g.nextId) :
    (g.append node).TreeShaped := by
  have hnone : (g.append node).childCount node.id = 0 :=
    List.countP_eq_zero.2 fun c hc => by simpa using (hw.ne_of_fresh hid hc).1
  refine ⟨h.acyclic, fun other hm hk => ?_, fun other hm hk => ?_, fun other hm hk c hc => ?_⟩
  · rcases List.mem_append.1 hm with hm | hm
    · exact h.single other hm hk
    · rw [List.mem_singleton.1 hm, hnone]
      omega
  · rcases List.mem_append.1 hm with hm | hm
    · exact h.leaf other hm hk
    · rw [List.mem_singleton.1 hm, hnone]
  · rcases List.mem_append.1 hm with hm | hm
    · exact h.placed other hm hk c hc
    · rw [List.mem_singleton.1 hm]
      exact (hw.ne_of_fresh hid hc).2

theorem childCount_concat (g : Graph) (c : Connection) (id : Int) :
    childCount { g with connections := g.connections ++ [c] } id =
      g.childCount id + if c.source = id then 1 else 0 := by
  simp [childCount, List.countP_append, List.countP_cons]

theorem connect (h : g.TreeShaped) (hw : g.WellFormed) {c : Connection}
    (hc : g.checkConnect c.source c.target = none) :
    TreeShaped { g with connections := g.connections ++ [c] } := by
  obtain ⟨source, target, hs, ht, hadmits⟩ := (checkConnect_eq_none_iff_admits g _ _).1 hc
  obtain ⟨hsm, hsid⟩ := mem_of_find? hs
  obtain ⟨htm, htid⟩ := mem_of_find? ht
  -- Ids are distinct, so the ends of the connection are the nodes that were checked.
  have hthe : ∀ {node other : Node}, node ∈ g.nodes → other ∈ g.nodes → other.id = node.id →
      node = other := by
    intro node other hm ho he
    exact List.inj_on_of_nodup_map hw.ids_nodup hm ho he.symm
  refine ⟨h.acyclic.insert (a := source.id) (b := target.id) ?_ hadmits.noWayBack,
    fun node hm hk => ?_, fun node hm hk => ?_, fun node hm hk d hd => ?_⟩
  · rintro u v ⟨d, hd, rfl, rfl⟩
    rcases List.mem_append.1 hd with hd | hd
    · exact Or.inl ⟨d, hd, rfl, rfl⟩
    · rw [List.mem_singleton.1 hd]
      exact Or.inr ⟨hsid.symm, htid.symm⟩
  · rw [childCount_concat]
    split_ifs with he
    · obtain rfl := hthe hm hsm (hsid.trans he)
      have := hadmits.single (by rcases hk with hk | hk <;> rw [hk] <;> decide)
      omega
    · exact h.single node hm hk
  · rw [childCount_concat]
    split_ifs with he
    · obtain rfl := hthe hm hsm (hsid.trans he)
      have := hadmits.inner
      rcases hk with hk | hk <;> rw [hk] at this <;> exact absurd this (by decide)
    · exact h.leaf node hm hk
  · rcases List.mem_append.1 hd with hd | hd
    · exact h.placed node hm hk d hd
    · rw [List.mem_singleton.1 hd]
      intro he
      obtain rfl := hthe hm htm (htid.trans he)
      exact hadmits.placed hk

theorem of_effect (h : g.TreeShaped) (hw : g.WellFormed) {operation : Operation}
    (he : Effect g operation g') : g'.TreeShaped := by
  cases he with
  | edit hs => exact h.mono hs.endsWithin fun node hm => hs.nodes ▸ List.mem_map_of_mem hm
  | append node hid _ => exact h.append hw hid
  | delete id =>
      refine h.mono (endsWithin_detach g id _) fun node hm => ?_
      exact List.mem_map_of_mem (List.mem_filter.1 hm).1
  | connect c hc ho => exact h.connect hw hc
  | disconnect id => exact h.mono (endsWithin_detach g id _) fun _ => List.mem_map_of_mem
  | exchange parent i j hi hj =>
      exact h.mono (endsWithin_exchange g parent i j) fun _ => List.mem_map_of_mem
  | clear => exact .empty

end TreeShaped
end Graph

/-- All graphs of a run without imports have the shape of a tree. -/
theorem Run.holds_treeShaped (calls : List Call) (hload : ∀ call ∈ calls, call.isLoad = false) :
    (Run.after calls).Holds Graph.TreeShaped := by
  refine Run.holds_after .empty calls (fun before operation _ h => ?_) fun value g hm _ => ?_
  · have hw := (Run.holds_wellFormed before).1
    exact h.1.of_effect hw (Graph.effect_apply hw.ids_nodup operation)
  · exact absurd (hload _ hm) Bool.noConfusion

/-- **Every graph that is built by hand has the shape of a tree**: after any calls but imports,
returns to earlier graphs among them, no path of connections is closed, decorators and subtree
holders have at most one child, conditions and actions none, and no connection enters a subtree
holder. -/
theorem treeShaped_after (calls : List Call) (hload : ∀ call ∈ calls, call.isLoad = false) :
    (Run.after calls).graph.TreeShaped :=
  (Run.holds_treeShaped calls hload).1

/-- A leaf is put below a decorator and deleted again, and the run goes back to before that. -/
def restoredRun : List Call :=
  [.create .sequence, .create .decorator, .create .action, .join 1 2, .join 2 3,
    .operate (.deleteNode 3), .restore 0]

theorem treeShaped_restoredRun :
    (∀ call ∈ restoredRun, call.isLoad = false) ∧ (Run.after restoredRun).graph.TreeShaped :=
  ⟨by decide, treeShaped_after restoredRun (by decide)⟩

end BehaviorTree
