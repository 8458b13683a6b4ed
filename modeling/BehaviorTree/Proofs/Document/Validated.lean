import BehaviorTree.Validation.Report
import BehaviorTree.Proofs.Document.OfGraph

/-! # Validation and what a document keeps

A validation looks neither at coordinates nor at attachment points, so it finds the same in a graph
and in what a document keeps of it (`validate_kept`). -/

namespace BehaviorTree

open BehaviorTree.Validation

namespace Graph

variable (g : Graph)

theorem ofKind_kept (kind : NodeKind) : g.kept.ofKind kind = (g.ofKind kind).map Node.plain := by
  rw [ofKind, ofKind, kept, List.filter_map]
  rfl

theorem hasChild_kept (id : ℤ) : g.kept.hasChild id = g.hasChild id := by
  rw [hasChild, hasChild, kept, List.any_map]
  rfl

theorem blackboardFields_kept : g.kept.blackboardFields = g.blackboardFields := by
  rw [blackboardFields, blackboardFields, ofKind_kept, List.flatMap_map]
  rfl

theorem subtreeNames_kept : subtreeNames g.kept = subtreeNames g := by
  rw [subtreeNames, subtreeNames, ofKind_kept, List.map_map]
  rfl

theorem blackboardKeys_kept : blackboardKeys g.kept = blackboardKeys g := by
  rw [blackboardKeys, blackboardKeys, ofKind_kept, List.flatMap_map]
  rfl

theorem errors_kept : g.kept.errors = g.errors := by
  have hnodes : (g.kept.nodes.flatMap fun node =>
      issuesOf node (nodeCauses node (g.kept.hasChild node.id))) =
        g.nodes.flatMap fun node => issuesOf node (nodeCauses node (g.hasChild node.id)) := by
    simp only [hasChild_kept]
    rw [kept, List.flatMap_map]
    rfl
  rw [errors, errors, hnodes, subtreeNames_kept, blackboardKeys_kept]

theorem warnings_kept : warnings g.kept = warnings g := by
  have hnames : ((g.kept.ofKind .subtree).map fun node => Text.trim node.name) =
      (g.ofKind .subtree).map fun node => Text.trim node.name := by
    rw [ofKind_kept, List.map_map]
    rfl
  rw [warnings, warnings, Resolver.ofGraph, blackboardFields_kept, hnames, kept, List.mapM_map]
  rfl

/-- **A validation finds the same in what a document keeps of a graph.** -/
theorem validate_kept (warned : Bool) : g.kept.validate warned = g.validate warned := by
  rw [validate, validate, warnings_kept, errors_kept, subtreeNames_kept, blackboardKeys_kept]

end Graph
end BehaviorTree
