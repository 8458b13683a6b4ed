import BehaviorTree.Proofs.Lua.EmittedChildren
import BehaviorTree.Proofs.Lua.ScriptRoot

/-! # The main tree

Subtree holders are left out of the main tree, since their trees are written beside it.  In the
graph of a run a holder stands below no other node, so the main tree has the table of a holder
exactly if it is that of its root (`Exporter.hasType_subtree_iff`).

But nothing keeps a holder from being the root.  Where no root blackboard has a tree below it, the
selection takes the first root that is no blackboard, and a holder is a root like any other: if it
was created before the tree that is meant, it becomes the main tree, and the tree that is meant is
left out (`not_hasType_subtree_iff`). -/

namespace BehaviorTree

namespace Graph

/-- The first root that is no blackboard. -/
def firstOther? (g : Graph) : Option Node := g.roots.find? fun node => node.kind ≠ .blackboard

/-- A root blackboard has a child that is no blackboard. -/
def AttachesTree (g : Graph) : Prop :=
  ∃ board ∈ g.roots, board.kind = .blackboard ∧ g.treesBelow board.id ≠ []

variable {g : Graph} {root : Node}

theorem firstTree?_eq_head? (g : Graph) (id : Int) : g.firstTree? id = (g.treesBelow id).head? := by
  rw [firstTree?, treesBelow, List.head?_filter]

theorem findSome?_firstTree?_eq_none_iff :
    (g.roots.filter fun node => node.kind = .blackboard).findSome?
      (fun board => g.firstTree? board.id) = none ↔ ¬ g.AttachesTree := by
  simp [AttachesTree, firstTree?_eq_head?]

/-- The root of a script is a child of a blackboard if one has a tree below it, and the first root
that is no blackboard if none has. -/
theorem cases_scriptRoot (h : g.scriptRoot = .ok root) :
    (g.AttachesTree ∧ ∃ board : Node, root ∈ g.children board.id) ∨
      (¬ g.AttachesTree ∧ g.firstOther? = some root) := by
  unfold scriptRoot at h
  dsimp only at h
  split_ifs at h
  split at h
  · rename_i hboard
    obtain rfl := Except.ok.inj h
    refine Or.inl ⟨?_, ?_⟩
    · by_contra hnone
      rw [findSome?_firstTree?_eq_none_iff.2 hnone] at hboard
      cases hboard
    · obtain ⟨board, -, hfirst⟩ := List.exists_of_findSome?_eq_some hboard
      exact ⟨board, List.mem_of_find?_eq_some hfirst⟩
  · rename_i hboards hothers
    obtain rfl := Except.ok.inj h
    refine Or.inr ⟨findSome?_firstTree?_eq_none_iff.1 hboards, ?_⟩
    rw [firstOther?, ← List.head?_filter, hothers]
    rfl
  · cases h

end Graph

theorem Node.effectiveType_eq_subtree_iff {node : Node} :
    node.effectiveType = NodeKind.subtree.text ↔ node.kind = .subtree ∧ node.decorator = none := by
  unfold Node.effectiveType
  cases hdecorator : node.decorator with
  | none => cases node.kind <;> decide
  | some kind => cases kind <;> simp <;> decide

namespace Lua

/-- A table, or one below it, is that of a node of this type. -/
def Table.HasType (entries : Table Leaf) (type : String) : Prop :=
  Table.Holds entries (.named "type") (.leaf (.member .nodeType type))

namespace Exporter

variable {e : Exporter} {main : Bool} {path : List Int} {node : Node} {entries : Table Leaf}

/-- A node writes its type once. -/
theorem writes_type_iff {type : String} :
    e.Writes node (.named "type") (.member .nodeType type) ↔ node.effectiveType = type := by
  constructor
  · intro h
    generalize hkey : Key.named "type" = key at h
    generalize hleaf : Leaf.member .nodeType type = leaf at h
    cases h with
    | argument => cases hkey
    | own h =>
        cases h with
        | type => exact (Leaf.member.inj hleaf).2.symm
        | detail hmem =>
            have hkeys : ∀ pair ∈ detailKeys, Key.named "type" ≠ .named pair.2 := by decide
            exact absurd hkey (hkeys _ hmem)
        | _ => exact absurd hkey (by decide)
  · rintro rfl
    exact .own .type

/-- The types of a body are those of the nodes that are visited. -/
theorem hasType_bodyOn_iff (h : e.bodyOn main path node = .ok entries) {type : String} :
    entries.HasType type ↔ ∃ other, e.Visits main path node other ∧ other.effectiveType = type := by
  rw [Table.HasType, holds_bodyOn_iff h]
  simp only [writes_type_iff]

/-- In a tree, no subtree holder is visited on the way down from another node. -/
theorem Visits.eq_or_ne_subtree (h : e.graph.TreeShaped) {other : Node}
    (hvisits : e.Visits main path node other) : other = node ∨ other.kind ≠ .subtree := by
  induction hvisits with
  | self => exact Or.inl rfl
  | child hchild _ ih =>
      refine Or.inr ?_
      rcases ih with rfl | hkind
      · exact h.kind_of_mem_children
          (List.mem_of_mem_filter (mem_writtenChildren_iff.1 hchild).1)
      · exact hkind

/-- **The table of a subtree holder** in a body is that of the body's own node. -/
theorem hasType_subtree_iff (hshape : e.graph.TreeShaped)
    (h : e.bodyOn main path node = .ok entries) :
    entries.HasType NodeKind.subtree.text ↔ node.effectiveType = NodeKind.subtree.text := by
  rw [hasType_bodyOn_iff h]
  constructor
  · rintro ⟨other, hvisits, htype⟩
    rcases hvisits.eq_or_ne_subtree hshape with rfl | hkind
    · exact htype
    · exact absurd (Node.effectiveType_eq_subtree_iff.1 htype).1 hkind
  · intro htype
    exact ⟨node, .self path node, htype⟩

end Exporter
end Lua

open BehaviorTree.Lua

/-- **The main tree of a script**, in a run without imports, has the table of no subtree holder
exactly if a root blackboard has a tree below it, or the first root that is no blackboard is no
holder. -/
theorem not_hasType_subtree_iff (calls : List Call) (hload : ∀ call ∈ calls, call.isLoad = false)
    {modulePath : String} {script : Script}
    (hscript : Script.ofGraph (Run.after calls).graph modulePath = .ok script) :
    ¬ script.main.HasType NodeKind.subtree.text ↔ (Run.after calls).graph.AttachesTree ∨
      ∀ first, (Run.after calls).graph.firstOther? = some first →
        first.effectiveType ≠ NodeKind.subtree.text := by
  have hshape := (Run.holds_treeShaped calls hload).1
  generalize (Run.after calls).graph = g at hshape hscript ⊢
  obtain ⟨root, hroot, -, hmain, -⟩ := Script.ofGraph_eq_ok_iff.1 hscript
  obtain ⟨-, hbody⟩ := Exporter.body?_eq_some_iff.1 hmain
  rw [Exporter.hasType_subtree_iff (e := Exporter.ofGraph g modulePath) hshape hbody]
  rcases Graph.cases_scriptRoot hroot with ⟨hattaches, board, hchild⟩ | ⟨hnone, hfirst⟩
  · refine iff_of_true (fun htype => ?_) (Or.inl hattaches)
    exact hshape.kind_of_mem_children hchild (Node.effectiveType_eq_subtree_iff.1 htype).1
  · simp [hnone, hfirst]

/-! ### Two roots -/

/-- Two nodes, one created after the other. -/
def twoRoots (first second : NodeKind) : List Call := [.create first, .create second]

/-- The graph of that run. -/
def twoRootsGraph (first second : NodeKind) : Graph where
  nodes := [Graph.freshNode 1 first "" (clampPosition 0 0),
    Graph.freshNode 2 second "" (clampPosition 0 0)]
  connections := []
  nextId := 3

theorem graph_after_twoRoots (first second : NodeKind) :
    (Run.after (twoRoots first second)).graph = twoRootsGraph first second := by
  simp only [twoRoots, Run.after, List.foldl, Run.step, Call.result_create]
  rfl

/-- Of a sequence and a subtree holder, the one created first is exported. -/
theorem ofGraph_twoRoots (first second : NodeKind)
    (h : (first, second) ∈ [(NodeKind.sequence, .subtree), (.subtree, .sequence)]) :
    Script.ofGraph (Run.after (twoRoots first second)).graph "" =
      .ok { root := 1, main := freshTable first } := by
  rw [graph_after_twoRoots]
  have hchildless : ∀ id, (twoRootsGraph first second).children id = [] :=
    fun _ => Graph.children_of_none (List.forall_mem_nil _)
  obtain ⟨hroot, hkind, hhead, holder, hholders⟩ :
      (twoRootsGraph first second).scriptRoot =
          .ok (Graph.freshNode 1 first "" (clampPosition 0 0)) ∧
        first ≠ .blackboard ∧
        (Exporter.ofGraph (twoRootsGraph first second) "").head
          (Graph.freshNode 1 first "" (clampPosition 0 0)) = .ok (freshTable first) ∧
        ∃ holder, (twoRootsGraph first second).ofKind .subtree = [holder] := by
    simp only [List.mem_cons, List.not_mem_nil, or_false, Prod.mk.injEq] at h
    obtain ⟨rfl, rfl⟩ | ⟨rfl, rfl⟩ := h <;> exact ⟨rfl, by decide, rfl, _, rfl⟩
  have hnone : Script.holderBody? (Exporter.ofGraph (twoRootsGraph first second) "") holder =
      .ok none := by
    rw [Script.holderBody?, show (Exporter.ofGraph (twoRootsGraph first second) "").graph.children
      holder.id = [] from hchildless holder.id]
  refine Script.ofGraph_eq_ok_iff.2 ⟨_, hroot, rfl, ?_, ?_,
    show logEntry [1, 0] = .ok () by decide⟩
  · exact Exporter.body?_eq_some_iff.2 ⟨hkind, Exporter.bodyOn_of_childless hhead (hchildless 1)⟩
  · rw [Script.subtreesOf, show (Exporter.ofGraph (twoRootsGraph first second) "").graph.ofKind
      .subtree = [holder] from hholders, List.mapM_cons, hnone]
    rfl

/-- A sequence created before a holder. -/
theorem not_hasType_subtree_iff_twoRoots :
    (∀ call ∈ twoRoots .sequence .subtree, call.isLoad = false) ∧
    Script.ofGraph (Run.after (twoRoots .sequence .subtree)).graph "" =
      .ok { root := 1, main := freshTable .sequence } ∧
    (¬ (freshTable .sequence).HasType NodeKind.subtree.text ↔
      (Run.after (twoRoots .sequence .subtree)).graph.AttachesTree ∨
        ∀ first, (Run.after (twoRoots .sequence .subtree)).graph.firstOther? = some first →
          first.effectiveType ≠ NodeKind.subtree.text) := by
  have hscript := ofGraph_twoRoots .sequence .subtree (by decide)
  exact ⟨by decide, hscript,
    not_hasType_subtree_iff (twoRoots .sequence .subtree) (by decide) hscript⟩

/-- **A holder created before a sequence** is the main tree, and the sequence is left out. -/
theorem hasType_subtree_twoRoots :
    (∀ call ∈ twoRoots .subtree .sequence, call.isLoad = false) ∧
      (∃ root ∈ (Run.after (twoRoots .subtree .sequence)).graph.roots,
        root.kind ≠ .blackboard ∧ root.kind ≠ .subtree) ∧
      Script.ofGraph (Run.after (twoRoots .subtree .sequence)).graph "" =
        .ok { root := 1, main := freshTable .subtree } ∧
      (freshTable .subtree).HasType NodeKind.subtree.text := by
  refine ⟨by decide, ?_, ofGraph_twoRoots .subtree .sequence (by decide),
    .here List.mem_cons_self⟩
  rw [graph_after_twoRoots]
  decide

end BehaviorTree
