import BehaviorTree.Proofs.Graph.WellFormed
import BehaviorTree.Proofs.Success
import BehaviorTree.Validation.Report
import Mathlib.Data.List.Nodup

/-! # What a validation finds wrong

The errors of a report are those of its nodes, of duplicate names and of duplicate keys
(`Graph.mem_errors_iff`).  A node is told that it has no children exactly if it needs one and no
connection leaves it (`Graph.exists_noChildren_iff`), and a name of subtree holders is reported
exactly if two of them have it (`Graph.exists_duplicateName_iff`); empty names do not count. -/

namespace BehaviorTree

open BehaviorTree.Text

namespace Validation

/-! ### Duplicates -/

section duplicates

variable {α : Type} {pairs : List (String × α)}

theorem mem_duplicates_iff {key : String} {values : List α} : (key, values) ∈ duplicates pairs ↔
    values = (pairs.filter fun pair => pair.1 = key).map (·.2) ∧ 2 ≤ values.length := by
  simp only [duplicates, gatherByKey, List.mem_filter, List.mem_map, List.mem_eraseDups,
    Prod.mk.injEq, decide_eq_true_eq]
  refine and_congr_left fun hlength => ⟨?_, ?_⟩
  · rintro ⟨_, -, rfl, rfl⟩
    rfl
  · intro hvalues
    -- the key of a group is that of its members
    have hmembers : (pairs.filter fun pair => pair.1 = key) ≠ [] := by
      intro hnil
      rw [hvalues, hnil] at hlength
      exact absurd hlength (Nat.not_succ_le_zero 1)
    obtain ⟨pair, hpair⟩ := List.exists_mem_of_ne_nil _ hmembers
    obtain ⟨hmem, hkey⟩ := List.mem_filter.1 hpair
    exact ⟨key, ⟨pair, hmem, of_decide_eq_true hkey⟩, rfl, hvalues.symm⟩

/-- There are no duplicates exactly if the keys are distinct. -/
theorem duplicates_eq_nil_iff : duplicates pairs = [] ↔ (pairs.map Prod.fst).Nodup := by
  have hcount : ∀ key, ((pairs.filter fun pair => pair.1 = key).map (·.2)).length =
      (pairs.map Prod.fst).count key := by
    intro key
    rw [List.length_map, ← List.countP_eq_length_filter, List.count, List.countP_map]
    rfl
  rw [List.nodup_iff_count_le_one, List.eq_nil_iff_forall_not_mem]
  constructor
  · intro h key
    by_contra hkey
    refine h (key, (pairs.filter fun pair => pair.1 = key).map (·.2))
      (mem_duplicates_iff.2 ⟨rfl, ?_⟩)
    rw [hcount]
    omega
  · rintro h ⟨key, values⟩ hmem
    obtain ⟨hvalues, hlength⟩ := mem_duplicates_iff.1 hmem
    have hle := h key
    rw [hvalues, hcount] at hlength
    omega

end duplicates

/-! ### Nodes without children -/

/-- A node that runs its children: a composite, or a decorator that neither waits nor refers to a
subtree. -/
def RunsChildren (node : Node) : Prop :=
  node.kind = .sequence ∨ node.kind = .fallback ∨ node.kind = .parallel ∨
    (node.kind = .decorator ∧ node.decorator ≠ some .subtreeRef ∧ node.decorator ≠ some .wait)

/-- A node that must have a child. -/
def NeedsChild (node : Node) : Prop := RunsChildren node ∨ node.kind = .subtree

theorem exists_childIssue_iff {node : Node} {hasChild single : Bool} :
    (∃ cause ∈ childIssue node hasChild single, cause.code = "E2005") ↔ hasChild = false := by
  unfold childIssue
  split_ifs with h
  · simp [h]
  · simp [h, Cause.code]

/-- A node by itself has no duplicate name. -/
theorem code_ne_of_mem_nodeCauses {node : Node} {hasChild : Bool} {cause : Cause}
    (h : cause ∈ nodeCauses node hasChild) : cause.code ≠ "E2006" := by
  have hchild : ∀ single, cause ∈ childIssue node hasChild single → cause.code ≠ "E2006" := by
    unfold childIssue
    split_ifs <;> simp +contextual [Cause.code]
  have hdecorator : cause ∈ decoratorCauses node hasChild → cause.code ≠ "E2006" := by
    unfold decoratorCauses
    split
    · split_ifs <;> simp +contextual [Cause.code]
    · split_ifs <;> simp +contextual [Cause.code]
    · exact hchild true
  rcases List.mem_append.1 h with h | h
  · rcases List.mem_append.1 h with h | h
    · split_ifs at h
      · simp [List.mem_singleton.1 h, Cause.code]
      · cases h
    · split_ifs at h
      · simp [List.mem_singleton.1 h, Cause.code]
      · cases h
  · split_ifs at h
    · exact hdecorator h
    · exact hchild false h
    · cases h

/-- Only a node that must have a child is told that it has none. -/
theorem exists_noChildren_iff {node : Node} {hasChild : Bool} :
    (∃ cause ∈ nodeCauses node hasChild, cause.code = "E2005") ↔
      NeedsChild node ∧ hasChild = false := by
  have hleaf : ¬ ∃ cause ∈ (if node.kind.isLeaf && node.func.isEmpty then
      [Cause.missingFunction (callName node)] else []), cause.code = "E2005" := by
    split_ifs <;> simp [Cause.code]
  have hparallel : ¬ ∃ cause ∈ (if node.kind = .parallel && node.policy.isEmpty then
      [Cause.missingPolicy (callName node)] else []), cause.code = "E2005" := by
    split_ifs <;> simp [Cause.code]
  simp only [nodeCauses, List.mem_append, or_and_right, exists_or, hleaf, hparallel, false_or]
  unfold NeedsChild RunsChildren
  split_ifs with hkind hrequires
  · unfold decoratorCauses
    split
    · rename_i hd
      split_ifs <;> simp [Cause.code, hkind, hd]
    · rename_i hd
      split_ifs <;> simp [Cause.code, hkind, hd]
    · rename_i href hwait
      rw [exists_childIssue_iff]
      simp only [hkind, reduceCtorEq, false_or, true_and, or_false]
      exact (and_iff_right ⟨href, hwait⟩).symm
  · rw [exists_childIssue_iff]
    cases hk : node.kind <;> simp_all [NodeKind.requiresChildren]
  · cases hk : node.kind <;> simp_all [NodeKind.requiresChildren]

end Validation

open Validation

/-- A report says of a node that it has no children. -/
def Report.Childless (report : Report) (id : Int) : Prop :=
  ∃ issue ∈ report.issues, issue.node = id ∧ issue.code = "E2005"

/-! ### The errors of a graph -/

namespace Graph

variable {g : Graph} {report : Report} {warned : Bool}

theorem issues_of_validate (h : g.validate warned = .ok report) : report.issues = g.errors := by
  cases warned <;>
  · obtain ⟨found, -, h⟩ := bind_eq_ok_iff.1 h
    obtain rfl := Except.ok.inj h
    rfl

/-- **The errors of a graph.** -/
theorem mem_errors_iff {issue : Issue} : issue ∈ g.errors ↔
    (∃ node ∈ g.nodes, issue.node = node.id ∧
      issue.cause ∈ nodeCauses node (g.hasChild node.id)) ∨
    (∃ group ∈ duplicates (subtreeNames g), ∃ id ∈ group.2,
      issue = ⟨id, .duplicateSubtreeName group.1 group.2.length⟩) ∨
    ∃ group ∈ duplicates (blackboardKeys g), ∃ place ∈ group.2,
      issue = ⟨place.1, .duplicateBlackboardKey group.1 group.2.length place.2⟩ := by
  simp only [errors, List.mem_append, List.mem_flatMap, issuesOf, nameIssues, keyIssues,
    List.mem_map, or_assoc]
  refine or_congr ?_ (or_congr ?_ ?_)
  · refine exists_congr fun node => and_congr_right fun _ => ?_
    constructor
    · rintro ⟨cause, hcause, rfl⟩
      exact ⟨rfl, hcause⟩
    · rintro ⟨hid, hcause⟩
      exact ⟨issue.cause, hcause, by rw [← hid]⟩
  · simp only [eq_comm]
  · simp only [eq_comm]

/-- **Which nodes are told that they have no children.** -/
theorem exists_noChildren_iff {id : Int} :
    (∃ issue ∈ g.errors, issue.node = id ∧ issue.code = "E2005") ↔
      ∃ node ∈ g.nodes, node.id = id ∧ NeedsChild node ∧ g.hasChild id = false := by
  constructor
  · rintro ⟨issue, hissue, rfl, hcode⟩
    rcases mem_errors_iff.1 hissue with ⟨node, hnode, hid, hcause⟩ | ⟨group, -, _, -, rfl⟩ |
      ⟨group, -, _, -, rfl⟩
    · have hchild := Validation.exists_noChildren_iff.1 ⟨issue.cause, hcause, hcode⟩
      exact ⟨node, hnode, hid.symm, hid ▸ hchild⟩
    · exact absurd hcode (by simp [Issue.code, Cause.code])
    · exact absurd hcode (by simp [Issue.code, Cause.code])
  · rintro ⟨node, hnode, rfl, hchild⟩
    obtain ⟨cause, hcause, hcode⟩ := Validation.exists_noChildren_iff.2 hchild
    exact ⟨⟨node.id, cause⟩, mem_errors_iff.2 (Or.inl ⟨node, hnode, rfl, hcause⟩), rfl, hcode⟩

/-- A node that must have a child and is not told otherwise has one. -/
theorem WellFormed.children_ne_nil_of_validate (hg : g.WellFormed)
    (h : g.validate warned = .ok report) {node : Node} (hnode : node ∈ g.nodes)
    (hneeds : NeedsChild node) (hchild : ¬ report.Childless node.id) : g.children node.id ≠ [] := by
  rw [hg.children_ne_nil_iff]
  by_contra hnone
  refine hchild ?_
  rw [Report.Childless, issues_of_validate h]
  exact exists_noChildren_iff.2 ⟨node, hnode, rfl, hneeds, by simpa using hnone⟩

/-- **When a name of subtree holders is reported.** -/
theorem exists_duplicateName_iff : (∃ issue ∈ g.errors, issue.code = "E2006") ↔
    ¬ ((subtreeNames g).map Prod.fst).Nodup := by
  rw [← duplicates_eq_nil_iff]
  constructor
  · rintro ⟨issue, hissue, hcode⟩ hnone
    rcases mem_errors_iff.1 hissue with ⟨node, -, -, hcause⟩ | ⟨group, hgroup, -⟩ |
      ⟨group, -, _, -, rfl⟩
    · exact code_ne_of_mem_nodeCauses hcause hcode
    · rw [hnone] at hgroup
      cases hgroup
    · exact absurd hcode (by simp [Issue.code, Cause.code])
  · intro hsome
    obtain ⟨⟨name, ids⟩, hgroup⟩ := List.exists_mem_of_ne_nil _ hsome
    obtain ⟨-, hlength⟩ := mem_duplicates_iff.1 hgroup
    obtain ⟨id, hid⟩ := List.exists_mem_of_length_pos (show 0 < ids.length by omega)
    exact ⟨_, mem_errors_iff.2 (Or.inr (Or.inl ⟨_, hgroup, id, hid, rfl⟩)), rfl⟩

end Graph
end BehaviorTree
