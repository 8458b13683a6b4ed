import BehaviorTree.Proofs.Graph.Height
import BehaviorTree.Proofs.Graph.TreeShape
import BehaviorTree.Proofs.Lua.Exportable

/-! # The root of a script

The main tree of a script starts from the first tree below a root blackboard, or else from the first
root that is no blackboard.  In the graph of a run there is a root as soon as there is a node, so the
first of the two failures is that of the empty graph.

The other one is meant for graphs of blackboards only.  But blackboards may be put above each other,
and the selection looks no further than to the children of a root: trees that all stand below
blackboards with others above them are not found (`HidesTrees`).  In all other graphs the selection
does what is meant (`scriptRoot_iff`). -/

namespace BehaviorTree

namespace Graph

/-- There is a node that is no blackboard, but all roots are blackboards above blackboards only. -/
def HidesTrees (g : Graph) : Prop :=
  (∃ node ∈ g.nodes, node.kind ≠ .blackboard) ∧
    ∀ root ∈ g.roots, root.kind = .blackboard ∧ ∀ child ∈ g.children root.id, child.kind = .blackboard

variable {g : Graph}

theorem firstTree?_eq_none_iff {id : Int} :
    g.firstTree? id = none ↔ ∀ child ∈ g.children id, child.kind = .blackboard := by
  simp [firstTree?, List.find?_eq_none]

theorem scriptRoot_eq_noRoot_iff : g.scriptRoot = .error .noRoot ↔ g.roots = [] := by
  unfold scriptRoot
  dsimp only
  split_ifs with hempty
  · exact iff_of_true rfl (List.isEmpty_iff.1 hempty)
  · refine iff_of_false ?_ fun hnil => hempty (List.isEmpty_iff.2 hnil)
    split <;> nofun

theorem scriptRoot_eq_noUsableRoot_iff : g.scriptRoot = .error .noUsableRoot ↔
    g.roots ≠ [] ∧ ∀ root ∈ g.roots,
      root.kind = .blackboard ∧ ∀ child ∈ g.children root.id, child.kind = .blackboard := by
  unfold scriptRoot
  dsimp only
  split_ifs with hempty
  · exact iff_of_false nofun fun h => h.1 (List.isEmpty_iff.1 hempty)
  · have hne : g.roots ≠ [] := fun hnil => hempty (List.isEmpty_iff.2 hnil)
    rw [and_iff_right hne]
    split
    · rename_i node hboard
      refine iff_of_false nofun fun h => ?_
      obtain ⟨board, hroot, hfirst⟩ := List.exists_of_findSome?_eq_some hboard
      have hnone := firstTree?_eq_none_iff.2 (h board (List.mem_of_mem_filter hroot)).2
      rw [hnone] at hfirst
      cases hfirst
    · rename_i node _ _ hothers
      refine iff_of_false nofun fun h => ?_
      have hmem : node ∈ g.roots.filter fun node => node.kind ≠ .blackboard := by
        rw [hothers]
        exact List.mem_cons_self
      obtain ⟨hroot, hkind⟩ := List.mem_filter.1 hmem
      exact of_decide_eq_true hkind (h node hroot).1
    · rename_i hboards hothers
      refine iff_of_true rfl fun root hroot => ?_
      have hkind : root.kind = .blackboard := by
        simpa using List.filter_eq_nil_iff.1 hothers root hroot
      have hboard : root ∈ g.roots.filter fun node => node.kind = .blackboard :=
        List.mem_filter.2 ⟨hroot, decide_eq_true hkind⟩
      exact ⟨hkind, firstTree?_eq_none_iff.1 (List.findSome?_eq_none_iff.1 hboards root hboard)⟩

/-- A selection fails in one of two ways, or finds a node that is no blackboard. -/
theorem scriptRoot_cases (g : Graph) :
    g.scriptRoot = .error .noRoot ∨ g.scriptRoot = .error .noUsableRoot ∨
      ∃ node ∈ g.nodes, node.kind ≠ .blackboard ∧ g.scriptRoot = .ok node := by
  cases h : g.scriptRoot with
  | error failure =>
      cases failure with
      | noRoot => exact Or.inl rfl
      | noUsableRoot => exact Or.inr (Or.inl rfl)
  | ok node =>
      exact Or.inr (Or.inr ⟨node, Lua.mem_of_scriptRoot h, Lua.kind_of_scriptRoot h, rfl⟩)

/-- A graph without cycles has roots exactly if it has nodes. -/
theorem WellFormed.roots_eq_nil_iff (hw : g.WellFormed) (h : g.Acyclic) :
    g.roots = [] ↔ g.nodes = [] := by
  constructor
  · intro hroots
    by_contra hne
    obtain ⟨root, hroot⟩ := hw.exists_mem_roots h hne
    rw [hroots] at hroot
    cases hroot
  · intro hnodes
    rw [roots, hnodes, List.filter_nil]

end Graph

open BehaviorTree.Graph

/-- **The root of a script**: in a run without imports, the selection finds nothing to be a root
exactly if there are no nodes.  It finds no usable root exactly in the graphs of blackboards, and a
node that is no blackboard in all others, unless the graph hides its trees. -/
theorem scriptRoot_iff (calls : List Call) (hload : ∀ call ∈ calls, call.isLoad = false) :
    ((Run.after calls).graph.scriptRoot = .error .noRoot ↔ (Run.after calls).graph.nodes = []) ∧
    (((Run.after calls).graph.scriptRoot = .error .noUsableRoot ↔
        (Run.after calls).graph.nodes ≠ [] ∧
          ∀ node ∈ (Run.after calls).graph.nodes, node.kind = .blackboard) ↔
      ¬ (Run.after calls).graph.HidesTrees) ∧
    ((∃ node ∈ (Run.after calls).graph.nodes, node.kind ≠ .blackboard ∧
        (Run.after calls).graph.scriptRoot = .ok node) ↔
      (∃ node ∈ (Run.after calls).graph.nodes, node.kind ≠ .blackboard) ∧
        ¬ (Run.after calls).graph.HidesTrees) := by
  have hwell := (Run.holds_wellFormed calls).1
  have hroots := hwell.roots_eq_nil_iff (Run.holds_treeShaped calls hload).1.acyclic
  generalize (Run.after calls).graph = g at hwell hroots ⊢
  have hnone : g.scriptRoot = .error .noRoot ↔ g.nodes = [] := scriptRoot_eq_noRoot_iff.trans hroots
  have hunusable : g.scriptRoot = .error .noUsableRoot ↔ g.nodes ≠ [] ∧ ∀ root ∈ g.roots,
      root.kind = .blackboard ∧ ∀ child ∈ g.children root.id, child.kind = .blackboard :=
    scriptRoot_eq_noUsableRoot_iff.trans (and_congr_left' (not_congr hroots))
  refine ⟨hnone, ⟨fun hmeant hhides => ?_, fun hshows => ?_⟩, fun hfound => ?_, fun hfound => ?_⟩
  · obtain ⟨⟨node, hnode, hkind⟩, hboards⟩ := hhides
    have hfails := hunusable.2 ⟨List.ne_nil_of_mem hnode, hboards⟩
    exact hkind ((hmeant.1 hfails).2 node hnode)
  · rw [hunusable]
    refine and_congr_right fun _ => ⟨fun hboards node hnode => ?_, fun hall root hroot => ?_⟩
    · by_contra hkind
      exact hshows ⟨⟨node, hnode, hkind⟩, hboards⟩
    · exact ⟨hall root (List.mem_of_mem_filter hroot), fun child hchild =>
        hall child (mem_children hchild)⟩
  · obtain ⟨node, hnode, hkind, hok⟩ := hfound
    refine ⟨⟨node, hnode, hkind⟩, fun hhides => ?_⟩
    have hfails := hunusable.2 ⟨List.ne_nil_of_mem hnode, hhides.2⟩
    rw [hok] at hfails
    cases hfails
  · obtain ⟨⟨node, hnode, hkind⟩, hshows⟩ := hfound
    rcases g.scriptRoot_cases with hfails | hfails | hok
    · exact absurd (hnone.1 hfails) (List.ne_nil_of_mem hnode)
    · exact absurd ⟨⟨node, hnode, hkind⟩, (hunusable.1 hfails).2⟩ hshows
    · exact hok

/-- A blackboard above another one, which is above an action. -/
def stackedBoards : List Call :=
  [.create .blackboard, .create .blackboard, .create .action, .join 1 2, .join 2 3]

/-- The nodes of that run, with some connections. -/
def stackedBoardsGraph (connections : List Connection) : Graph where
  nodes := [freshNode 1 .blackboard "" (clampPosition 0 0),
    freshNode 2 .blackboard "" (clampPosition 0 0), freshNode 3 .action "" (clampPosition 0 0)]
  connections := connections
  nextId := 4

theorem graph_after_stackedBoards : (Run.after stackedBoards).graph =
    stackedBoardsGraph [⟨1, 2, 0, "right", "left"⟩, ⟨2, 3, 0, "right", "left"⟩] := by
  have hcreated : (Run.after [.create .blackboard, .create .blackboard, .create .action]).graph =
      stackedBoardsGraph [] := by
    simp only [Run.after, List.foldl, Run.step, Call.result_create]
    rfl
  have hfirst : (stackedBoardsGraph []).checkConnect 1 2 = none :=
    checkConnect_of_unjoined rfl rfl (by decide) rfl (by decide) (List.forall_mem_nil _)
      (List.forall_mem_nil _)
  have hsecond : (stackedBoardsGraph [⟨1, 2, 0, "right", "left"⟩]).checkConnect 2 3 = none :=
    checkConnect_of_unjoined rfl rfl (by decide) rfl (by decide) (by decide) (by decide)
  exact Run.graph_after_join (Run.graph_after_join hcreated hfirst) hsecond

theorem scriptRoot_iff_stackedBoards :
    (∀ call ∈ stackedBoards, call.isLoad = false) ∧
    ((Run.after stackedBoards).graph.scriptRoot = .error .noRoot ↔
      (Run.after stackedBoards).graph.nodes = []) ∧
    (((Run.after stackedBoards).graph.scriptRoot = .error .noUsableRoot ↔
        (Run.after stackedBoards).graph.nodes ≠ [] ∧
          ∀ node ∈ (Run.after stackedBoards).graph.nodes, node.kind = .blackboard) ↔
      ¬ (Run.after stackedBoards).graph.HidesTrees) ∧
    ((∃ node ∈ (Run.after stackedBoards).graph.nodes, node.kind ≠ .blackboard ∧
        (Run.after stackedBoards).graph.scriptRoot = .ok node) ↔
      (∃ node ∈ (Run.after stackedBoards).graph.nodes, node.kind ≠ .blackboard) ∧
        ¬ (Run.after stackedBoards).graph.HidesTrees) :=
  ⟨by decide, scriptRoot_iff stackedBoards (by decide)⟩

/-- **A tree below stacked blackboards**: all connections are accepted, and there is an action, but
no root to be used. -/
theorem tree_hidden_stackedBoards :
    (∀ call ∈ stackedBoards, call.isLoad = false) ∧
      (∃ node ∈ (Run.after stackedBoards).graph.nodes, node.kind ≠ .blackboard) ∧
      (Run.after stackedBoards).graph.scriptRoot = .error .noUsableRoot := by
  rw [graph_after_stackedBoards]
  refine ⟨by decide, by decide, scriptRoot_eq_noUsableRoot_iff.2 ⟨by decide, ?_⟩⟩
  have hroots : (stackedBoardsGraph [⟨1, 2, 0, "right", "left"⟩,
      ⟨2, 3, 0, "right", "left"⟩]).roots = [freshNode 1 .blackboard "" (clampPosition 0 0)] := rfl
  have hchildren : (stackedBoardsGraph [⟨1, 2, 0, "right", "left"⟩,
      ⟨2, 3, 0, "right", "left"⟩]).children 1 =
        [freshNode 2 .blackboard "" (clampPosition 0 0)] :=
    children_of_ordered (List.pairwise_singleton _ _)
  rw [hroots, List.forall_mem_singleton]
  refine ⟨rfl, ?_⟩
  rw [freshNode, hchildren, List.forall_mem_singleton]
  rfl

end BehaviorTree
