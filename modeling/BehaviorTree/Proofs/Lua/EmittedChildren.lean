import BehaviorTree.Proofs.Graph.TreeShape
import BehaviorTree.Proofs.Lua.CycleGuard
import BehaviorTree.Proofs.Lua.SubtreeBodies

/-! # Children that are written

A validation counts every connection that leaves a node, and a script leaves blackboards out.  In
the graph of a run no subtree holder stands below another node and no node above itself, so all other
children are written: the table of a node has all children that are no blackboards, one by one
(`Exporter.writesChildren_of_treeShaped`).  So it is known what a node is exported with that is not
told that it has no children (`emitted_children`). -/

namespace BehaviorTree

open Relation (ReflTransGen TransGen)
open BehaviorTree.Text BehaviorTree.Validation

/-- The children of a node that are no blackboards. -/
def Graph.treesBelow (g : Graph) (id : Int) : List Node :=
  (g.children id).filter fun child => child.kind ≠ .blackboard

/-- In a tree, a subtree holder is no child. -/
theorem Graph.TreeShaped.kind_of_mem_children {g : Graph} (h : g.TreeShaped) {id : Int}
    {child : Node} (hchild : child ∈ g.children id) : child.kind ≠ .subtree := by
  intro hkind
  obtain ⟨c, hc, -, htarget⟩ := Graph.edge_of_mem_children hchild
  exact h.placed child (Graph.mem_children hchild) hkind c hc htarget

namespace Lua

namespace Exporter

variable {e : Exporter}

/-- The table of a node has the tables of those children that are no blackboards, and there is one.
`path` holds ids of nodes above the node, itself among them. -/
def WritesChildren (e : Exporter) (node : Node) : Prop :=
  ∀ main path entries, (∀ above ∈ path, ReflTransGen e.graph.Edge above node.id) →
    e.bodyOn main path node = .ok entries → ∃ bodies, bodies ≠ [] ∧
      (.named "children", .table (bodies.map fun body => (.positional, .table body))) ∈ entries ∧
      List.Forall₂ (fun child body => e.bodyOn main (child.id :: path) child = .ok body)
        (e.graph.treesBelow node.id) bodies

/-- In a tree, only blackboards are left out below a node. -/
theorem writtenChildren_of_treeShaped (h : e.graph.TreeShaped) (main : Bool) {path : List Int}
    {id : Int} (hpath : ∀ above ∈ path, ReflTransGen e.graph.Edge above id) :
    e.writtenChildren main path id = e.graph.treesBelow id := by
  have hall : e.writtenChildren main path id = e.shownChildren main id :=
    List.filter_eq_self.2 fun child hchild =>
      decide_eq_true (disjoint_of_acyclic h.acyclic main hpath child hchild)
  rw [hall, shownChildren, Graph.treesBelow]
  refine List.filter_congr fun child hchild => ?_
  simp [isShown, h.kind_of_mem_children hchild]

/-- **The children of a table** in a tree: all that are no blackboards, if there is one. -/
theorem writesChildren_of_treeShaped (h : e.graph.TreeShaped) {node : Node}
    (htrees : e.graph.treesBelow node.id ≠ []) : e.WritesChildren node := by
  intro main path entries hpath hbody
  obtain ⟨front, bodies, -, -, hbodies, rfl⟩ := bodyOn_eq_ok_iff.1 hbody
  rw [writtenChildren_of_treeShaped h main hpath] at hbodies
  have hall := mapM_eq_ok_iff.1 hbodies
  have hne : bodies ≠ [] := by
    obtain ⟨child, hchild⟩ := List.exists_mem_of_ne_nil _ htrees
    obtain ⟨body, hmem, -⟩ := exists_right_of_forall₂ hall hchild
    exact List.ne_nil_of_mem hmem
  refine ⟨bodies, hne, List.mem_append_right _ ?_, hall⟩
  rw [childrenEntry, if_neg (by simpa using hne)]
  exact List.mem_singleton_self _

end Exporter

/-- A script has the tree of the last holder with the name of a holder. -/
def Script.KeepsName (e : Exporter) (script : Script) (holder : Node) : Prop :=
  ∃ keeper body, e.graph.keeper? (trim holder.name) = some keeper ∧
    Script.holderBody? e keeper = .ok (some body) ∧
    Keyed.value? (trim holder.name) script.subtrees = some body

/-- A holder whose first child is no blackboard has its name in a script. -/
theorem Script.keepsName_of_child {g : Graph} {modulePath : String} {script : Script}
    (hscript : Script.ofGraph g modulePath = .ok script) {holder child : Node} {rest : List Node}
    (hholder : holder ∈ g.ofKind .subtree) (hchildren : g.children holder.id = child :: rest)
    (hkind : child.kind ≠ .blackboard) :
    script.KeepsName (Exporter.ofGraph g modulePath) holder := by
  obtain ⟨_, -, -, -, hsubtrees, -⟩ := ofGraph_eq_ok_iff.1 hscript
  have hhas : holder ∈ g.treeHolders :=
    List.mem_filter.2 ⟨hholder, by simp [hchildren, hkind]⟩
  obtain ⟨keeper, hkeeper⟩ := Graph.exists_keeper hhas
  obtain ⟨body, hbody, hvalue⟩ := value?_subtrees hsubtrees hkeeper
  exact ⟨keeper, body, hkeeper, hbody, hvalue⟩

end Lua

open BehaviorTree.Lua

/-- **What a validated graph is exported with.**  In a run without imports, a node that runs its
children and is not told that it has none has a child, and if one of its children is no blackboard,
its table has those that are not.  A subtree holder that is not told so has a single child, and if
that is no blackboard, any script of the graph has the tree of the last holder with its name. -/
theorem emitted_children (calls : List Call) (hload : ∀ call ∈ calls, call.isLoad = false)
    {warned : Bool} {report : Report}
    (hreport : (Run.after calls).graph.validate warned = .ok report) (modulePath : String) :
    (∀ node ∈ (Run.after calls).graph.nodes, RunsChildren node → ¬ report.Childless node.id →
      (Run.after calls).graph.children node.id ≠ [] ∧
        ((Run.after calls).graph.treesBelow node.id ≠ [] →
          (Exporter.ofGraph (Run.after calls).graph modulePath).WritesChildren node)) ∧
    ∀ holder ∈ (Run.after calls).graph.ofKind .subtree, ¬ report.Childless holder.id →
      ∃ child, (Run.after calls).graph.children holder.id = [child] ∧
        (child.kind ≠ .blackboard →
          ∀ script, Script.ofGraph (Run.after calls).graph modulePath = .ok script →
            script.KeepsName (Exporter.ofGraph (Run.after calls).graph modulePath) holder) := by
  have hwell := (Run.holds_wellFormed calls).1
  have hshape := (Run.holds_treeShaped calls hload).1
  refine ⟨fun node hnode hruns hchild => ⟨?_, ?_⟩, fun holder hholder hchild => ?_⟩
  · exact hwell.children_ne_nil_of_validate hreport hnode (Or.inl hruns) hchild
  · exact Exporter.writesChildren_of_treeShaped (e := Exporter.ofGraph _ modulePath) hshape
  · obtain ⟨hnode, hkind⟩ := List.mem_filter.1 hholder
    have hkind := of_decide_eq_true hkind
    have hne := hwell.children_ne_nil_of_validate hreport hnode (Or.inr hkind) hchild
    have hone := (Graph.length_children_le _ holder.id).trans
      (hshape.single holder hnode (Or.inr hkind))
    obtain ⟨child, hchildren⟩ := List.length_eq_one_iff.1
      (hone.antisymm (List.length_pos_of_ne_nil hne))
    exact ⟨child, hchildren,
      fun hkind script hscript => Script.keepsName_of_child hscript hholder hchildren hkind⟩

/-! ### A sequence above a node -/

/-- A sequence with a node of a kind below it, and two subtrees with the name of their kind. -/
def belowSequence (kind : NodeKind) : List Call :=
  [.create .sequence, .create kind, .create .subtree, .create .action, .create .subtree,
    .create .condition, .join 1 2, .join 3 4, .join 5 6]

/-- The nodes of that run, with some connections. -/
def belowSequenceGraph (kind : NodeKind) (connections : List Connection) : Graph where
  nodes := [Graph.freshNode 1 .sequence "" (clampPosition 0 0),
    Graph.freshNode 2 kind "" (clampPosition 0 0),
    Graph.freshNode 3 .subtree "" (clampPosition 0 0),
    Graph.freshNode 4 .action "" (clampPosition 0 0),
    Graph.freshNode 5 .subtree "" (clampPosition 0 0),
    Graph.freshNode 6 .condition "" (clampPosition 0 0)]
  connections := connections
  nextId := 7

/-- The graph of that run. -/
def belowSequenceJoined (kind : NodeKind) : Graph :=
  belowSequenceGraph kind
    [⟨1, 2, 0, "right", "left"⟩, ⟨3, 4, 0, "right", "left"⟩, ⟨5, 6, 0, "right", "left"⟩]

theorem graph_after_belowSequence {kind : NodeKind} (hkind : kind ≠ .subtree) :
    (Run.after (belowSequence kind)).graph = belowSequenceJoined kind := by
  have hcreated : (Run.after [.create .sequence, .create kind, .create .subtree,
      .create .action, .create .subtree, .create .condition]).graph =
        belowSequenceGraph kind [] := by
    simp only [Run.after, List.foldl, Run.step, Call.result_create]
    rfl
  have hfirst : (belowSequenceGraph kind []).checkConnect 1 2 = none :=
    Graph.checkConnect_of_unjoined rfl rfl (by decide) rfl hkind (List.forall_mem_nil _)
      (List.forall_mem_nil _)
  have hsecond :
      (belowSequenceGraph kind [⟨1, 2, 0, "right", "left"⟩]).checkConnect 3 4 = none :=
    Graph.checkConnect_of_unjoined rfl rfl (by decide) rfl (by decide)
      (by simp [belowSequenceGraph]) (by simp [belowSequenceGraph])
  have hthird : (belowSequenceGraph kind [⟨1, 2, 0, "right", "left"⟩,
      ⟨3, 4, 0, "right", "left"⟩]).checkConnect 5 6 = none :=
    Graph.checkConnect_of_unjoined rfl rfl (by decide) rfl (by decide)
      (by simp [belowSequenceGraph]) (by simp [belowSequenceGraph])
  exact Run.graph_after_join (Run.graph_after_join (Run.graph_after_join hcreated hfirst) hsecond)
    hthird

/-- What is found wrong after that run: nothing about children. `below` is what is wrong with the
node below the sequence. -/
def belowSequenceReport (below : List Issue) : Report where
  issues := below ++ [⟨4, .missingFunction "Action"⟩, ⟨6, .missingFunction "Condition"⟩,
    ⟨3, .duplicateSubtreeName "Subtree" 2⟩, ⟨5, .duplicateSubtreeName "Subtree" 2⟩]
  duplicateNames := [("Subtree", [3, 5])]

/-- What is written for a fresh node without children. -/
def freshTable (kind : NodeKind) : Table Leaf :=
  [leafEntry "type" (.member .nodeType kind.text),
    leafEntry "name" (.scalar (.text kind.defaultName))]

/-- What is exported after that run, if the node is a blackboard. -/
def boardBelowScript : Script where
  root := 1
  main := freshTable .sequence
  subtrees := [("Subtree", freshTable .condition)]

/-- The trees of the two subtrees. -/
theorem holderBody?_belowSequence (kind : NodeKind) :
    Script.holderBody? (Exporter.ofGraph (belowSequenceJoined kind) "")
        (Graph.freshNode 3 .subtree "" (clampPosition 0 0)) = .ok (some (freshTable .action)) ∧
      Script.holderBody? (Exporter.ofGraph (belowSequenceJoined kind) "")
        (Graph.freshNode 5 .subtree "" (clampPosition 0 0)) =
          .ok (some (freshTable .condition)) := by
  have hfirst : (belowSequenceJoined kind).children 3 =
      [Graph.freshNode 4 .action "" (clampPosition 0 0)] :=
    Graph.children_of_ordered (List.pairwise_singleton _ _)
  have hsecond : (belowSequenceJoined kind).children 5 =
      [Graph.freshNode 6 .condition "" (clampPosition 0 0)] :=
    Graph.children_of_ordered (List.pairwise_singleton _ _)
  have hchildless : ∀ id, id ≠ 1 ∧ id ≠ 3 ∧ id ≠ 5 →
      (belowSequenceJoined kind).children id = [] := by
    rintro id ⟨h1, h3, h5⟩
    exact Graph.children_of_none
      (by simpa [belowSequenceJoined, belowSequenceGraph] using ⟨h1.symm, h3.symm, h5.symm⟩)
  constructor
  · exact Script.holderBody?_eq_some_iff.2 ⟨_, [], hfirst, Exporter.body?_eq_some_iff.2
      ⟨by decide, Exporter.bodyOn_of_childless rfl (hchildless 4 (by decide))⟩⟩
  · exact Script.holderBody?_eq_some_iff.2 ⟨_, [], hsecond, Exporter.body?_eq_some_iff.2
      ⟨by decide, Exporter.bodyOn_of_childless rfl (hchildless 6 (by decide))⟩⟩

theorem ofGraph_boardBelow :
    Script.ofGraph (belowSequenceJoined .blackboard) "" = .ok boardBelowScript := by
  obtain ⟨haction, hcondition⟩ := holderBody?_belowSequence .blackboard
  refine Script.ofGraph_eq_ok_iff.2
    ⟨Graph.freshNode 1 .sequence "" (clampPosition 0 0), rfl, rfl, ?_, ?_, by decide⟩
  · have hboard : (belowSequenceJoined .blackboard).children 1 =
        [Graph.freshNode 2 .blackboard "" (clampPosition 0 0)] :=
      Graph.children_of_ordered (List.pairwise_singleton _ _)
    have hshown : (Exporter.ofGraph (belowSequenceJoined .blackboard) "").shownChildren
        true 1 = [] := by
      change ((belowSequenceJoined .blackboard).children 1).filter _ = []
      rw [hboard]
      rfl
    exact Exporter.body?_eq_some_iff.2 ⟨by decide, Exporter.bodyOn_of_unshown rfl hshown⟩
  · have hholders : (Exporter.ofGraph (belowSequenceJoined .blackboard) "").graph.ofKind .subtree =
        [Graph.freshNode 3 .subtree "" (clampPosition 0 0),
          Graph.freshNode 5 .subtree "" (clampPosition 0 0)] := rfl
    rw [Script.subtreesOf, hholders, List.mapM_cons, List.mapM_cons, haction, hcondition]
    rfl

/-- A sequence above an action. -/
theorem emitted_children_belowSequence :
    (∀ node ∈ (Run.after (belowSequence .action)).graph.nodes, RunsChildren node →
      ¬ (belowSequenceReport [⟨2, .missingFunction "Action"⟩]).Childless node.id →
      (Run.after (belowSequence .action)).graph.children node.id ≠ [] ∧
        ((Run.after (belowSequence .action)).graph.treesBelow node.id ≠ [] →
          (Exporter.ofGraph (Run.after (belowSequence .action)).graph "").WritesChildren node)) ∧
    ∀ holder ∈ (Run.after (belowSequence .action)).graph.ofKind .subtree,
      ¬ (belowSequenceReport [⟨2, .missingFunction "Action"⟩]).Childless holder.id →
      ∃ child, (Run.after (belowSequence .action)).graph.children holder.id = [child] ∧
        (child.kind ≠ .blackboard →
          ∀ script, Script.ofGraph (Run.after (belowSequence .action)).graph "" = .ok script →
            script.KeepsName (Exporter.ofGraph (Run.after (belowSequence .action)).graph "")
              holder) := by
  have hreport : (Run.after (belowSequence .action)).graph.validate true =
      .ok (belowSequenceReport [⟨2, .missingFunction "Action"⟩]) := by
    rw [graph_after_belowSequence (by decide)]
    decide
  exact emitted_children (belowSequence .action) (by decide) hreport ""

/-- **A sequence with a blackboard only** is not told that it has no children, and its table has
none; of two subtrees with one name, which are not told so either, the script has the second. -/
theorem not_emitted_boardBelow :
    (∀ call ∈ belowSequence .blackboard, call.isLoad = false) ∧
      (Run.after (belowSequence .blackboard)).graph.validate true = .ok (belowSequenceReport []) ∧
      (∀ id, ¬ (belowSequenceReport []).Childless id) ∧
      Script.ofGraph (Run.after (belowSequence .blackboard)).graph "" = .ok boardBelowScript ∧
      (∀ value, (.named "children", value) ∉ boardBelowScript.main) ∧
      (∃ holder ∈ (Run.after (belowSequence .blackboard)).graph.ofKind .subtree,
        Script.holderBody? (Exporter.ofGraph (Run.after (belowSequence .blackboard)).graph "")
          holder = .ok (some (freshTable .action))) ∧
      boardBelowScript.subtrees = [("Subtree", freshTable .condition)] := by
  rw [graph_after_belowSequence (by decide)]
  refine ⟨by decide, by decide, ?_, ofGraph_boardBelow, ?_, ?_, rfl⟩
  · rintro id ⟨issue, hissue, -, hcode⟩
    have hcodes : ∀ issue ∈ (belowSequenceReport []).issues, issue.code ≠ "E2005" := by decide
    exact hcodes issue hissue hcode
  · intro value hvalue
    simp [boardBelowScript, freshTable, leafEntry] at hvalue
  · exact ⟨Graph.freshNode 3 .subtree "" (clampPosition 0 0),
      List.mem_filter.2 ⟨.tail _ (.tail _ (.head _)), rfl⟩,
      (holderBody?_belowSequence .blackboard).1⟩

end BehaviorTree
