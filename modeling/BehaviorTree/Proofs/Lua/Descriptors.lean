import BehaviorTree.Proofs.Lua.Exported
import BehaviorTree.Proofs.Reference
import BehaviorTree.Proofs.Validation.Warnings

/-! # Descriptors

Where a script looks a key up on the blackboard.  Only the text of an attribute or argument that is
a reference becomes a descriptor (`Exporter.Writes.reference`), and all places that may hold one are
among those that a validation looks at.  So a graph without a warning of an unknown key has a script
whose keys are defined, with the defaults that the first fields of these keys give
(`Script.descriptor_defined`). -/

namespace BehaviorTree.Lua

open BehaviorTree.Text BehaviorTree.Validation

/-! ### Leaves that are descriptors -/

/-- The default that the value of a field gives: none if it is empty, otherwise its scalar. -/
inductive DefaultOf (value : String) : Option Scalar → Prop
  | empty (h : value = "") : DefaultOf value none
  | scalar {s : Scalar} (hne : value ≠ "") (h : Scalar.ofText value = .ok s) :
      DefaultOf value (some s)

theorem ofResolved_eq_descriptor {resolved : Resolved} {key : String} {default : Option Scalar}
    (h : Leaf.ofResolved resolved = .ok (.descriptor key default)) :
    ∃ value?, resolved = .reference key value? ∧ ∀ value ∈ value?, DefaultOf value default := by
  unfold Leaf.ofResolved at h
  split at h
  · obtain ⟨s, -, h⟩ := bind_eq_ok_iff.1 h
    cases h
  · cases h
    exact ⟨none, rfl, nofun⟩
  · rename_i name value
    split_ifs at h with hempty
    · cases h
      exact ⟨some value, rfl, fun _ he => Option.some.inj he ▸ .empty (String.isEmpty_iff.1 hempty)⟩
    · obtain ⟨s, hs, h⟩ := bind_eq_ok_iff.1 h
      cases h
      have hne : value ≠ "" := fun he => hempty (String.isEmpty_iff.2 he)
      exact ⟨some value, rfl, fun _ he => Option.some.inj he ▸ .scalar hne hs⟩

namespace Exporter

variable {e : Exporter} {text key : String} {default : Option Scalar}

/-- A descriptor stands for a reference, and its default comes from the value of the key. -/
theorem leafOf_eq_descriptor (h : e.leafOf text = .ok (.descriptor key default)) :
    isReference text = true ∧ key = dropFirst text ∧
      ∀ value, e.resolver.default? key = some value → DefaultOf value default := by
  obtain ⟨value?, hresolved, hdefault⟩ := ofResolved_eq_descriptor h
  by_cases href : isReference text = true
  · rw [Resolver.resolve_of_isReference href] at hresolved
    obtain ⟨rfl, rfl⟩ := Resolved.reference.inj hresolved
    exact ⟨href, rfl, hdefault⟩
  · rw [Resolver.resolve_of_not_isReference (by simpa using href)] at hresolved
    cases hresolved

/-! The other ways of writing a text make a descriptor of it only where `leafOf` does. -/

theorem leafOf_of_functionLeaf (h : e.functionLeaf text = .ok (.descriptor key default)) :
    e.leafOf text = .ok (.descriptor key default) := by
  unfold functionLeaf at h
  split at h
  · exact h
  · cases h
  · cases h

theorem leafOf_of_policyLeaf (h : e.policyLeaf text = .ok (.descriptor key default)) :
    e.leafOf text = .ok (.descriptor key default) := by
  unfold policyLeaf at h
  split at h
  · split_ifs at h <;> cases h
  · exact h

theorem leafOf_of_subtreeLeaf (h : e.subtreeLeaf text = .ok (.descriptor key default)) :
    e.leafOf text = .ok (.descriptor key default) := by
  unfold subtreeLeaf at h
  split at h
  · cases h
  · exact h

theorem leafOf_of_paramLeaf (h : e.paramLeaf text = .ok (.descriptor key default)) :
    e.leafOf text = .ok (.descriptor key default) := by
  unfold paramLeaf at h
  split at h
  · rename_i value hliteral
    split_ifs at h
    · cases h
    · rw [leafOf, hliteral]
      exact h
  · exact h

/-- **A descriptor that a node is written with** stands for a reference, in an attribute or argument
that a validation looks at. -/
theorem Writes.reference {node : Node} {place : Key}
    (h : e.Writes node place (.descriptor key default)) : ∃ text,
      ((∃ which ∈ referenceAttributes, text = which.get node) ∨
        ∃ param ∈ node.params.getD [], text = param.value) ∧
      e.leafOf text = .ok (.descriptor key default) := by
  have hdetail : ∀ pair ∈ detailKeys, Attribute.detail pair.1 ∈ referenceAttributes := by decide
  cases h with
  | own h =>
      cases h with
      | func _ h =>
          exact ⟨_, Or.inl ⟨.func, by decide, rfl⟩, leafOf_of_functionLeaf h⟩
      | policy _ h => exact ⟨_, Or.inl ⟨.policy, by decide, rfl⟩, leafOf_of_policyLeaf h⟩
      | @detail d name _ hkey _ h => exact ⟨_, Or.inl ⟨.detail d, hdetail _ hkey, rfl⟩, h⟩
      | subtree _ _ h =>
          exact ⟨_, Or.inl ⟨.detail .subtree, by decide, rfl⟩, leafOf_of_subtreeLeaf h⟩
  | argument hparam _ h => exact ⟨_, Or.inr ⟨_, hparam, rfl⟩, leafOf_of_paramLeaf h⟩

end Exporter

/-! ### Defined keys -/

/-- A reference that no warning is about names a key that is defined. -/
theorem isKnown_of_no_warning {g : Graph} {report : Report} (h : g.validate true = .ok report)
    (hw : ∀ issue ∈ report.warnings, issue.code ≠ "W2102") {node : Node} (hnode : node ∈ g.nodes)
    {text : String} (htext : (∃ which ∈ referenceAttributes, text = which.get node) ∨
      ∃ param ∈ node.params.getD [], text = param.value) (href : isReference text = true) :
    (Resolver.ofGraph g).isKnown (dropFirst text) = true := by
  by_contra hkey
  rw [Bool.not_eq_true] at hkey
  obtain ⟨cause, hwarned, hcode⟩ : ∃ cause, Warned g node cause ∧ cause.code = "W2102" := by
    rcases htext with ⟨which, hmem, rfl⟩ | ⟨param, hmem, rfl⟩
    · exact ⟨_, .reference hmem href hkey, rfl⟩
    · obtain ⟨index, hparam⟩ := List.mem_iff_getElem?.1 hmem
      exact ⟨_, .param hparam href hkey, rfl⟩
  exact hw ⟨node.id, cause⟩ ((Graph.mem_warnings_iff h).2 ⟨node, hnode, rfl, hwarned⟩) hcode

/-- **The keys of a script are defined**: in a script of a graph without a warning of an unknown key,
each descriptor, wherever it stands, has the key of a blackboard field and the default that the
first such field gives. -/
theorem Script.descriptor_defined {g : Graph} {report : Report}
    (hreport : g.validate true = .ok report)
    (hw : ∀ issue ∈ report.warnings, issue.code ≠ "W2102") {modulePath : String} {script : Script}
    (hscript : Script.ofGraph g modulePath = .ok script) {place : Key} {key : String}
    {default : Option Scalar}
    (h : Table.Holds script.table place (.leaf (.descriptor key default))) :
    ∃ field, g.blackboardFields.find? (fun field => trim field.key = key) = some field ∧
      DefaultOf field.value default := by
  obtain ⟨node, hcovers, hwrites⟩ := (holds_table_iff hscript).1 h
  obtain ⟨text, htext, hleaf⟩ := hwrites.reference
  obtain ⟨href, rfl, hdefault⟩ := Exporter.leafOf_eq_descriptor hleaf
  have hknown := isKnown_of_no_warning hreport hw hcovers.mem htext href
  obtain ⟨value, hvalue⟩ := Option.isSome_iff_exists.1 hknown
  obtain ⟨-, field, hfield, rfl⟩ := Resolver.default?_ofFields_eq_some_iff.1 hvalue
  exact ⟨field, hfield, hdefault _ hvalue⟩

/-- An action whose function is looked up, and a blackboard that has the key twice. -/
def lookupGraph : Graph where
  nodes := [
    { id := 1, kind := .blackboard, fields := some [⟨" move ", "walk", ""⟩, ⟨"move", "", ""⟩] },
    { id := 2, kind := .action, func := "@move" }]
  nextId := 3

/-- What is exported of it. -/
def lookupScript : Script where
  root := 2
  main := [leafEntry "type" (.member .nodeType "ACTION"), leafEntry "name" (.scalar (.text "")),
    leafEntry "func" (.descriptor "move" (some (.text "walk")))]

/-- What a validation finds in it. -/
def lookupReport : Report where
  issues := [⟨1, .duplicateBlackboardKey "move" 2 0⟩, ⟨1, .duplicateBlackboardKey "move" 2 1⟩]
  duplicateKeys := [("move", [(1, 0), (1, 1)])]

theorem ofGraph_lookupGraph : Script.ofGraph lookupGraph "" = .ok lookupScript := by
  have hleaf : (Exporter.ofGraph lookupGraph "").functionLeaf "@move" =
      .ok (.descriptor "move" (some (.text "walk"))) := by decide +kernel
  have hfunc : Exporter.attributeEntry "func" "@move"
      (Exporter.ofGraph lookupGraph "").functionLeaf =
        .ok [leafEntry "func" (.descriptor "move" (some (.text "walk")))] := by
    rw [Exporter.attributeEntry, if_neg (by decide), hleaf]
    rfl
  refine Script.ofGraph_eq_ok_iff.2
    ⟨{ id := 2, kind := .action, func := "@move" }, by decide +kernel, rfl, ?_, rfl,
      by decide⟩
  refine Exporter.body?_eq_some_iff.2
    ⟨by decide, Exporter.bodyOn_of_childless ?_ (by decide +kernel)⟩
  unfold Exporter.head
  rw [hfunc]
  rfl

theorem Script.descriptor_defined_lookup :
    ∃ field, lookupGraph.blackboardFields.find? (fun field => trim field.key = "move") = some field ∧
      DefaultOf field.value (some (.text "walk")) := by
  have hreport : lookupGraph.validate true = .ok lookupReport := by decide
  have hplace : (Key.named "func", .leaf (.descriptor "move" (some (.text "walk")))) ∈
      lookupScript.table :=
    .tail _ (.tail _ (.head _))
  exact Script.descriptor_defined hreport (by decide) ofGraph_lookupGraph (.here hplace)

end BehaviorTree.Lua
