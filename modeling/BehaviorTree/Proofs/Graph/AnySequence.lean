import BehaviorTree.Proofs.Graph.SameView
import BehaviorTree.Proofs.Graph.TreeShape

/-! # Runs that visit parents in any sequence

When a node loses its connections, its parents are renumbered one after the other, and it is up to
the host in which sequence they come.  `Run.after` takes them by their ids.  A run that takes them as
they come passes through rearrangements of the same graphs (`Run.MayReach.rearranged`).  So whatever
holds of all graphs of `Run.after`, and does not depend on the sequence of the connections, holds of
its graphs too: they look the same (`Run.MayReach.sameView`), are well-formed
(`Run.MayReach.wellFormed`) and, without imports, have the shape of trees
(`Run.MayReach.treeShaped`). -/

namespace BehaviorTree

open BehaviorTree.Graph

/-! ### Properties that do not depend on the sequence -/

namespace Graph

variable {g g' : Graph}

theorem WellFormed.rearranged (hw : g.WellFormed) (h : g.Rearranged g') : g'.WellFormed where
  ids_nodup := h.nodes ▸ hw.ids_nodup
  ids_lt := fun node hnode => by
    rw [h.nodes] at hnode
    rw [h.nextId]
    exact hw.ids_lt node hnode
  joined := fun c hc => by
    rw [h.nodes]
    exact hw.joined c (h.connections.mem_iff.1 hc)
  edges_nodup := (h.connections.map _).nodup_iff.2 hw.edges_nodup
  contiguous := h.ordered hw.contiguous

theorem TreeShaped.rearranged (ht : g.TreeShaped) (h : g.Rearranged g') : g'.TreeShaped where
  acyclic := by
    have hedge : g'.Edge = g.Edge := funext₂ fun a b => propext (h.edge_iff a b)
    rw [Acyclic, hedge]
    exact ht.acyclic
  single := fun node hnode hkind => by
    rw [h.nodes] at hnode
    rw [h.childCount_eq]
    exact ht.single node hnode hkind
  leaf := fun node hnode hkind => by
    rw [h.nodes] at hnode
    rw [h.childCount_eq]
    exact ht.leaf node hnode hkind
  placed := fun node hnode hkind c hc => by
    rw [h.nodes] at hnode
    exact ht.placed node hnode hkind c (h.connections.mem_iff.1 hc)

end Graph

namespace Run

/-! ### Runs -/

/-- The runs that some calls may make, with the parents of nodes that go visited as they come. -/
inductive MayReach : List Call → Run → Prop
  | start : MayReach [] {}
  | operate {calls : List Call} {run : Run} {operation : Operation} {g : Graph}
      (hrun : MayReach calls run) (hleave : run.graph.MayLeave operation g) :
      MayReach (calls ++ [.operate operation]) ⟨g, run.graph :: run.earlier⟩
  | load {calls : List Call} {run : Run} (hrun : MayReach calls run) (value : Json) :
      MayReach (calls ++ [.load value]) (run.step (.load value))
  | restore {calls : List Call} {run : Run} (hrun : MayReach calls run) (age : ℕ) :
      MayReach (calls ++ [.restore age]) (run.step (.restore age))

/-- Two runs whose graphs are rearrangements of each other, one by one. -/
structure Rearranged (run run' : Run) : Prop where
  graph : run.graph.Rearranged run'.graph
  earlier : List.Forall₂ Graph.Rearranged run.earlier run'.earlier

variable {run run' : Run} {calls : List Call}

theorem Rearranged.push (h : run.Rearranged run') {g g' : Graph} (hg : g.Rearranged g') :
    Rearranged ⟨g, run.graph :: run.earlier⟩ ⟨g', run'.graph :: run'.earlier⟩ :=
  ⟨hg, .cons h.graph h.earlier⟩

/-- A document that is read leaves rearranged graphs: the one that it holds, or those before. -/
theorem Rearranged.load (h : run.Rearranged run') (value : Json) :
    (run.step (.load value)).Rearranged (run'.step (.load value)) := by
  refine h.push ?_
  cases hload : Graph.ofJson value with
  | ok g =>
      rw [Call.result_load_of_ok run hload, Call.result_load_of_ok run' hload]
      exact .refl g
  | error fault =>
      rw [Call.result_load_of_error run hload, Call.result_load_of_error run' hload]
      exact h.graph

/-- So does the return to the graphs of one age. -/
theorem Rearranged.restore (h : run.Rearranged run') (age : ℕ) :
    (run.step (.restore age)).Rearranged (run'.step (.restore age)) := by
  refine h.push ?_
  have hget := (List.forall₂_iff_get.1 h.earlier)
  change (run.earlier[age]?.getD run.graph).Rearranged (run'.earlier[age]?.getD run'.graph)
  by_cases hage : age < run.earlier.length
  · have hage' : age < run'.earlier.length := hget.1 ▸ hage
    rw [List.getElem?_eq_getElem hage, List.getElem?_eq_getElem hage']
    exact hget.2 age hage hage'
  · have hage' : ¬ age < run'.earlier.length := hget.1 ▸ hage
    rw [List.getElem?_eq_none (not_lt.1 hage), List.getElem?_eq_none (not_lt.1 hage')]
    exact h.graph

/-- **A run that visits parents as they come** passes through rearrangements of the graphs of the
run that visits them by their ids. -/
theorem MayReach.rearranged (h : MayReach calls run) : (after calls).Rearranged run := by
  induction h with
  | start => exact ⟨.refl _, .nil⟩
  | @operate calls run operation g hrun hleave ih =>
      have ho : (after calls).graph.Ordered := (holds_wellFormed calls).1.contiguous
      rw [after_append]
      exact ih.push (MayLeave.rearranged ho ih.graph (.apply operation) hleave).2
  | load hrun value ih =>
      rw [after_append]
      exact ih.load value
  | restore hrun age ih =>
      rw [after_append]
      exact ih.restore age

/-- What is read off its last graph is what is read off that of the other. -/
theorem MayReach.sameView (h : MayReach calls run) : (after calls).graph.SameView run.graph :=
  h.rearranged.graph.sameView (holds_wellFormed calls).1.contiguous

theorem MayReach.wellFormed (h : MayReach calls run) : run.graph.WellFormed :=
  (holds_wellFormed calls).1.rearranged h.rearranged.graph

theorem MayReach.treeShaped (h : MayReach calls run)
    (hload : ∀ call ∈ calls, call.isLoad = false) : run.graph.TreeShaped :=
  (holds_treeShaped calls hload).1.rearranged h.rearranged.graph

end Run
end BehaviorTree
