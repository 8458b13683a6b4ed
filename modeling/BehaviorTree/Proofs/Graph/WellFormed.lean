import BehaviorTree.Proofs.Graph.Admission
import BehaviorTree.Proofs.Graph.Effect
import BehaviorTree.Proofs.Graph.Import
import BehaviorTree.Proofs.Graph.Run
import BehaviorTree.Proofs.Keyed

/-! # Well-formed graphs

Distinct ids below the next one, connections between existing nodes, no connection twice, and
children numbered from zero on: every graph that a run reaches has all of this
(`wellFormed_after`), also after imports and returns to earlier graphs. -/

namespace BehaviorTree

namespace Graph

/-- What holds of every graph under edit. -/
structure WellFormed (g : Graph) : Prop where
  ids_nodup : (g.nodes.map (·.id)).Nodup
  ids_lt : ∀ node ∈ g.nodes, node.id < g.nextId
  joined : ∀ c ∈ g.connections, c.source ∈ g.nodes.map (·.id) ∧ c.target ∈ g.nodes.map (·.id)
  edges_nodup : (g.connections.map Connection.ends).Nodup
  contiguous : ∀ parent, Contiguous g.connections parent

namespace WellFormed

variable {g g' : Graph}

theorem empty : Graph.empty.WellFormed where
  ids_nodup := .nil
  ids_lt := fun _ h => absurd h List.not_mem_nil
  joined := fun _ h => absurd h List.not_mem_nil
  edges_nodup := .nil
  contiguous := fun _ => .refl _

/-- The node of an id, if the ids are distinct. -/
theorem find?_of_mem (h : g.WellFormed) {node : Node} (hm : node ∈ g.nodes) :
    g.find? node.id = some node :=
  Keyed.find?_of_mem h.ids_nodup hm

/-- A node has a child exactly if a connection leaves it. -/
theorem children_ne_nil_iff (h : g.WellFormed) {id : Int} :
    g.children id ≠ [] ↔ g.hasChild id = true := by
  constructor
  · intro hne
    obtain ⟨child, hchild⟩ := List.exists_mem_of_ne_nil _ hne
    obtain ⟨c, hc, -⟩ := List.mem_filterMap.1 hchild
    obtain ⟨hc, hsource⟩ := mem_outgoing.1 hc
    exact List.any_eq_true.2 ⟨c, hc, by simpa using hsource⟩
  · intro hleaves
    obtain ⟨c, hc, hsource⟩ := List.any_eq_true.1 hleaves
    obtain ⟨child, hmem, hid⟩ := List.mem_map.1 (h.joined c hc).2
    have hchild : child ∈ g.children id := List.mem_filterMap.2
      ⟨c, mem_outgoing.2 ⟨hc, of_decide_eq_true hsource⟩, hid ▸ h.find?_of_mem hmem⟩
    exact List.ne_nil_of_mem hchild

theorem of_sameShape (h : g.WellFormed) (hs : SameShape g g') : g'.WellFormed where
  ids_nodup := by rw [hs.ids]; exact h.ids_nodup
  ids_lt := by
    intro node hm
    have hid : node.id ∈ g.nodes.map (·.id) := hs.ids ▸ List.mem_map_of_mem hm
    obtain ⟨old, hold, he⟩ := List.mem_map.1 hid
    rw [hs.nextId, ← he]
    exact h.ids_lt old hold
  joined := by rw [hs.ids, hs.connections]; exact h.joined
  edges_nodup := by rw [hs.connections]; exact h.edges_nodup
  contiguous := by rw [hs.connections]; exact h.contiguous

theorem append (h : g.WellFormed) {node : Node} (hid : node.id = g.nextId) :
    (g.append node).WellFormed where
  ids_nodup := by
    have hnew : ∀ old ∈ g.nodes, old.id ≠ node.id := fun old hold he =>
      absurd (h.ids_lt old hold) (by omega)
    simp only [Graph.append, List.map_append, List.map_cons, List.map_nil]
    refine List.nodup_append.2 ⟨h.ids_nodup, List.nodup_singleton _, fun a ha b hb => ?_⟩
    obtain ⟨old, hold, rfl⟩ := List.mem_map.1 ha
    rw [List.mem_singleton.1 hb]
    exact hnew old hold
  ids_lt := by
    intro other ho
    simp only [Graph.append, List.mem_append, List.mem_singleton] at ho ⊢
    rcases ho with ho | rfl
    · have := h.ids_lt other ho
      omega
    · omega
  joined := by
    intro c hc
    obtain ⟨hs, ht⟩ := h.joined c hc
    simp only [Graph.append, List.map_append]
    exact ⟨List.mem_append_left _ hs, List.mem_append_left _ ht⟩
  edges_nodup := h.edges_nodup
  contiguous := h.contiguous

/-- A connection that is left after a node's connections are removed joined the same two ids
before, and neither is that node. -/
theorem exists_of_mem_detach {cs : List Connection} {id : Int} {c : Connection}
    (hc : c ∈ detach cs id) :
    ∃ d ∈ cs, d.source = c.source ∧ d.target = c.target ∧ c.source ≠ id ∧ c.target ≠ id := by
  have hmem : c.ends ∈ (apart cs id).map Connection.ends :=
    (ends_detach cs id).subset (List.mem_map_of_mem hc)
  obtain ⟨d, hd, he⟩ := List.mem_map.1 hmem
  obtain ⟨hd, hs, ht⟩ := mem_apart.1 hd
  obtain ⟨hes, het⟩ := Prod.mk.inj he
  exact ⟨d, hd, hes, het, hes ▸ hs, het ▸ ht⟩

theorem edges_nodup_detach (h : g.WellFormed) (id : Int) :
    ((detach g.connections id).map Connection.ends).Nodup := by
  rw [(ends_detach g.connections id).nodup_iff]
  exact h.edges_nodup.sublist (List.filter_sublist.map _)

theorem disconnect (h : g.WellFormed) (id : Int) :
    WellFormed { g with connections := detach g.connections id } where
  ids_nodup := h.ids_nodup
  ids_lt := h.ids_lt
  joined := by
    intro c hc
    obtain ⟨d, hd, hs, ht, -⟩ := exists_of_mem_detach hc
    rw [← hs, ← ht]
    exact h.joined d hd
  edges_nodup := h.edges_nodup_detach id
  contiguous := contiguous_detach h.contiguous id

theorem delete (h : g.WellFormed) (id : Int) :
    WellFormed { g with
      nodes := g.nodes.filter fun other => other.id ≠ id
      connections := detach g.connections id } where
  ids_nodup := h.ids_nodup.sublist (List.filter_sublist.map _)
  ids_lt := fun node hm => h.ids_lt node (List.mem_filter.1 hm).1
  joined := by
    have hleft : ∀ a ∈ g.nodes.map (·.id), a ≠ id →
        a ∈ (g.nodes.filter fun other => other.id ≠ id).map (·.id) := by
      intro a ha hne
      obtain ⟨node, hm, rfl⟩ := List.mem_map.1 ha
      exact List.mem_map_of_mem (List.mem_filter.2 ⟨hm, by simpa using hne⟩)
    intro c hc
    obtain ⟨d, hd, hs, ht, hcs, hct⟩ := exists_of_mem_detach hc
    obtain ⟨hjs, hjt⟩ := h.joined d hd
    exact ⟨hleft _ (hs ▸ hjs) hcs, hleft _ (ht ▸ hjt) hct⟩
  edges_nodup := h.edges_nodup_detach id
  contiguous := contiguous_detach h.contiguous id

/-- The new connection is numbered behind its siblings. -/
theorem contiguous_concat {cs : List Connection} {c : Connection}
    (h : ∀ parent, Contiguous cs parent) (ho : c.order = (siblings cs c.source).length)
    (parent : Int) : Contiguous (cs ++ [c]) parent := by
  by_cases hp : c.source = parent
  · subst hp
    have hc : siblings [c] c.source = [c] := siblings_of_all (by simp)
    unfold Contiguous
    rw [siblings_append, hc, List.map_append, List.length_append, List.length_singleton,
      List.range_succ, List.map_singleton, ho]
    exact (h c.source).append_right _
  · have hc : siblings [c] parent = [] := siblings_of_none (by simpa using hp)
    refine (h parent).congr ?_
    rw [siblings_append, hc, List.append_nil]

theorem connect (h : g.WellFormed) {c : Connection}
    (hc : g.checkConnect c.source c.target = none) (ho : c.order = g.childCount c.source) :
    WellFormed { g with connections := g.connections ++ [c] } := by
  obtain ⟨source, target, hs, ht, hadmits⟩ := (checkConnect_eq_none_iff_admits g _ _).1 hc
  obtain ⟨hsm, hsid⟩ := mem_of_find? hs
  obtain ⟨htm, htid⟩ := mem_of_find? ht
  refine ⟨h.ids_nodup, h.ids_lt, fun d hd => ?_, ?_, contiguous_concat h.contiguous ?_⟩
  · rcases List.mem_append.1 hd with hd | hd
    · exact h.joined d hd
    · rw [List.mem_singleton.1 hd, ← hsid, ← htid]
      exact ⟨List.mem_map_of_mem hsm, List.mem_map_of_mem htm⟩
  · rw [List.map_append, List.map_singleton]
    refine List.nodup_append.2 ⟨h.edges_nodup, List.nodup_singleton _, fun a ha b hb => ?_⟩
    obtain ⟨d, hd, rfl⟩ := List.mem_map.1 ha
    rw [List.mem_singleton.1 hb]
    intro he
    obtain ⟨hes, het⟩ := Prod.mk.inj he
    exact hadmits.fresh ⟨d, hd, hes.trans hsid.symm, het.trans htid.symm⟩
  · rw [ho, length_siblings]

theorem exchange (h : g.WellFormed) {parent : Int} {i j : ℕ}
    (hi : i ∈ (siblings g.connections parent).map (·.order))
    (hj : j ∈ (siblings g.connections parent).map (·.order)) :
    WellFormed { g with connections := gather parent (exchangeBelow parent i j g.connections) } := by
  have hlt : ∀ n ∈ (siblings g.connections parent).map (·.order),
      n < (siblings g.connections parent).length :=
    fun n hn => List.mem_range.1 ((h.contiguous parent).subset hn)
  have hends : ((gather parent (exchangeBelow parent i j g.connections)).map
      Connection.ends).Perm (g.connections.map Connection.ends) := by
    rw [← map_ends_exchangeBelow parent i j g.connections]
    exact (gather_perm parent _).map _
  refine ⟨h.ids_nodup, h.ids_lt, fun c hc => ?_, hends.nodup_iff.2 h.edges_nodup,
    contiguous_exchange h.contiguous (hlt i hi) (hlt j hj)⟩
  obtain ⟨d, hd, he⟩ := List.mem_map.1 (hends.subset (List.mem_map_of_mem hc))
  obtain ⟨hes, het⟩ := Prod.mk.inj he
  rw [← hes, ← het]
  exact h.joined d hd

theorem of_effect (h : g.WellFormed) {operation : Operation} (he : Effect g operation g') :
    g'.WellFormed := by
  cases he with
  | edit hs => exact h.of_sameShape hs
  | append node hid _ => exact h.append hid
  | delete id => exact h.delete id
  | connect c hc ho => exact h.connect hc ho
  | disconnect id => exact h.disconnect id
  | exchange parent i j hi hj => exact h.exchange hi hj
  | clear => exact .empty

theorem apply (h : g.WellFormed) (operation : Operation) : (operation.apply g).2.WellFormed :=
  h.of_effect (effect_apply h.ids_nodup operation)

theorem of_build {nodes : List Node} {links : List Link} (hb : build nodes links = .ok g) :
    g.WellFormed := by
  obtain ⟨hn, hjoined, hedges, rfl⟩ := (build_eq_ok_iff nodes links g).1 hb
  have hends := Link.map_ends_connections links
  refine ⟨hn, fun node hm => lt_idAfter (List.mem_map_of_mem hm), fun c hc => ?_, ?_,
    Link.contiguous_connections links⟩
  · have hmem : c.ends ∈ links.map Link.ends := hends ▸ List.mem_map_of_mem hc
    obtain ⟨link, hl, he⟩ := List.mem_map.1 hmem
    obtain ⟨hes, het⟩ := Prod.mk.inj he
    rw [← hes, ← het]
    exact hjoined link hl
  · rw [hends]
    exact hedges

theorem of_ofJson {value : Json} (h : ofJson value = .ok g) : g.WellFormed := by
  obtain ⟨nodes, links, hb⟩ := exists_build_of_ofJson h
  exact of_build hb

end WellFormed
end Graph

/-- All graphs of a run are well-formed. -/
theorem Run.holds_wellFormed (calls : List Call) : (Run.after calls).Holds Graph.WellFormed :=
  Run.holds_after .empty calls (fun _ operation _ h => h.1.apply operation)
    (fun _ _ _ h => .of_ofJson h)

/-- **Every reachable graph is well-formed**: after any calls, imports and returns to earlier graphs
among them, node ids are distinct and below the next id, connections join existing nodes, no two
join the same ones, and the children of each node are numbered from zero on, each number once. -/
theorem wellFormed_after (calls : List Call) : (Run.after calls).graph.WellFormed :=
  (Run.holds_wellFormed calls).1

end BehaviorTree
