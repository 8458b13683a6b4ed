import BehaviorTree.Proofs.Validation

/-! # What a validation warns of

The warnings of a report, node by node, are those that `Warned` lists (`Graph.mem_warnings_iff`):
references to keys that no blackboard defines, numbers out of their range, and names of subtrees
that no holder has. -/

namespace BehaviorTree

open BehaviorTree.Text

/-! ### Warnings -/

/-- The names of the subtree holders of a graph, trimmed. -/
def Graph.holderNames (g : Graph) : List String := (g.ofKind .subtree).map fun node => trim node.name

namespace Validation

/-- What a node is warned of. -/
inductive Warned (g : Graph) (node : Node) : Cause → Prop
  /-- An attribute refers to a key that is not defined. -/
  | reference {which : Attribute} (hmem : which ∈ referenceAttributes)
      (href : isReference (which.get node) = true)
      (hkey : (Resolver.ofGraph g).isKnown (dropFirst (which.get node)) = false) :
      Warned g node (.unknownBlackboardKey (dropFirst (which.get node)) (.text which))
  /-- An argument does. -/
  | param {index : ℕ} {param : Param} (hparam : (node.params.getD [])[index]? = some param)
      (href : isReference param.value = true)
      (hkey : (Resolver.ofGraph g).isKnown (dropFirst param.value) = false) :
      Warned g node (.unknownBlackboardKey (dropFirst param.value) (.param index))
  /-- A number is none, or out of its range. -/
  | number {detail : Detail} (hmem : detail ∈ numericDetails)
      (hne : trim (node.detailText detail) ≠ "")
      (href : isReference (trim (node.detailText detail)) = false)
      (hrange : isInRange detail (trim (node.detailText detail)).toList = .ok false) :
      Warned g node (.malformedNumber detail (trim (node.detailText detail)))
  /-- A decorator names a subtree that no holder has. -/
  | subtree (hd : node.decorator = some .subtreeRef) (hne : trim (node.detailText .subtree) ≠ "")
      (href : isReference (trim (node.detailText .subtree)) = false)
      (hname : trim (node.detailText .subtree) ∉ g.holderNames) :
      Warned g node (.unknownSubtree (trim (node.detailText .subtree)))

theorem mem_referenceCauses_iff {r : Resolver} {place : Place} {text : String} {cause : Cause} :
    cause ∈ referenceCauses r place text ↔ isReference text = true ∧
      r.isKnown (dropFirst text) = false ∧ cause = .unknownBlackboardKey (dropFirst text) place := by
  unfold referenceCauses
  by_cases href : isReference text = true <;> by_cases hkey : r.isKnown (dropFirst text) = true <;>
    simp [href, hkey]

theorem mem_paramCauses_iff {r : Resolver} {node : Node} {cause : Cause} :
    cause ∈ paramCauses r node ↔ ∃ index param, (node.params.getD [])[index]? = some param ∧
      cause ∈ referenceCauses r (.param index) param.value := by
  simp only [paramCauses, List.mem_flatMap, Prod.exists, List.mem_zipIdx_iff_getElem?]
  exact exists_comm

theorem mem_numberCauses_iff {node : Node} {detail : Detail} {causes : List Cause}
    (h : numberCauses node detail = .ok causes) {cause : Cause} : cause ∈ causes ↔
      trim (node.detailText detail) ≠ "" ∧ isReference (trim (node.detailText detail)) = false ∧
        isInRange detail (trim (node.detailText detail)).toList = .ok false ∧
          cause = .malformedNumber detail (trim (node.detailText detail)) := by
  unfold numberCauses at h
  dsimp only at h
  split_ifs at h with hskipped
  · obtain rfl := Except.ok.inj h
    rw [Bool.or_eq_true, String.isEmpty_iff] at hskipped
    rcases hskipped with hempty | href
    · simp [hempty]
    · simp [href]
  · obtain ⟨b, hb, h⟩ := bind_eq_ok_iff.1 h
    rw [Bool.or_eq_true, String.isEmpty_iff, not_or, Bool.not_eq_true] at hskipped
    cases b with
    | true =>
        obtain rfl := Except.ok.inj h
        simp [hb]
    | false =>
        obtain rfl := Except.ok.inj h
        simp [hb, hskipped]

theorem mem_subtreeCauses_iff {names : List String} {node : Node} {cause : Cause} :
    cause ∈ subtreeCauses names node ↔ node.decorator = some .subtreeRef ∧
      trim (node.detailText .subtree) ≠ "" ∧
        isReference (trim (node.detailText .subtree)) = false ∧
          trim (node.detailText .subtree) ∉ names ∧
            cause = .unknownSubtree (trim (node.detailText .subtree)) := by
  unfold subtreeCauses
  dsimp only
  split_ifs with h
  · simp only [Bool.and_eq_true, decide_eq_true_eq, Bool.not_eq_true', String.isEmpty_eq_false_iff,
      List.contains_eq_mem, decide_eq_false_iff_not] at h
    simp [h]
  · simp only [Bool.and_eq_true, decide_eq_true_eq, Bool.not_eq_true', String.isEmpty_eq_false_iff,
      List.contains_eq_mem, decide_eq_false_iff_not] at h
    simp only [List.not_mem_nil, false_iff]
    rintro ⟨hd, hne, href, hname, -⟩
    exact h ⟨⟨⟨hd, hne⟩, href⟩, hname⟩

theorem mem_warningCauses_iff {g : Graph} {node : Node} {causes : List Cause}
    (h : warningCauses (Resolver.ofGraph g) g.holderNames node = .ok causes) {cause : Cause} :
    cause ∈ causes ↔ Warned g node cause := by
  obtain ⟨numbers, hnumbers, h⟩ := bind_eq_ok_iff.1 h
  obtain rfl := Except.ok.inj h
  have hmem : cause ∈ numbers.flatten ↔ ∃ detail ∈ numericDetails, ∃ found,
      numberCauses node detail = .ok found ∧ cause ∈ found := by
    rw [List.mem_flatten]
    constructor
    · rintro ⟨found, hfound, hcause⟩
      obtain ⟨detail, hdetail, hnumber⟩ := exists_of_mem_mapM hnumbers hfound
      exact ⟨detail, hdetail, found, hnumber, hcause⟩
    · rintro ⟨detail, hdetail, found, hnumber, hcause⟩
      obtain ⟨other, hother, hsame⟩ := exists_mem_of_mapM hnumbers hdetail
      obtain rfl := Except.ok.inj (hnumber.symm.trans hsame)
      exact ⟨found, hother, hcause⟩
  simp only [List.mem_append, List.mem_flatMap, mem_referenceCauses_iff, mem_paramCauses_iff, hmem,
    mem_subtreeCauses_iff]
  constructor
  · rintro (((⟨which, hwhich, href, hkey, rfl⟩ | ⟨index, param, hparam, href, hkey, rfl⟩) |
      ⟨detail, hdetail, found, hfound, hcause⟩) | ⟨hd, hne, href, hname, rfl⟩)
    · exact .reference hwhich href hkey
    · exact .param hparam href hkey
    · obtain ⟨hne, href, hrange, rfl⟩ := (mem_numberCauses_iff hfound).1 hcause
      exact .number hdetail hne href hrange
    · exact .subtree hd hne href hname
  · intro h
    cases h with
    | reference hwhich href hkey => exact Or.inl (Or.inl (Or.inl ⟨_, hwhich, href, hkey, rfl⟩))
    | param hparam href hkey => exact Or.inl (Or.inl (Or.inr ⟨_, _, hparam, href, hkey, rfl⟩))
    | @number detail hdetail hne href hrange =>
        obtain ⟨found, -, hfound⟩ := exists_mem_of_mapM hnumbers hdetail
        exact Or.inl (Or.inr ⟨detail, hdetail, found, hfound,
          (mem_numberCauses_iff hfound).2 ⟨hne, href, hrange, rfl⟩⟩)
    | subtree hd hne href hname => exact Or.inr ⟨hd, hne, href, hname, rfl⟩

end Validation

open Validation

/-- **The warnings of a report.** -/
theorem Graph.mem_warnings_iff {g : Graph} {report : Report} (h : g.validate true = .ok report)
    {issue : Issue} : issue ∈ report.warnings ↔
      ∃ node ∈ g.nodes, issue.node = node.id ∧ Warned g node issue.cause := by
  obtain ⟨found, hfound, h⟩ := bind_eq_ok_iff.1 h
  obtain rfl := Except.ok.inj h
  obtain ⟨lists, hlists, hfound⟩ := bind_eq_ok_iff.1 hfound
  obtain rfl := Except.ok.inj hfound
  change issue ∈ lists.flatten ↔ _
  rw [List.mem_flatten]
  constructor
  · rintro ⟨list, hlist, hissue⟩
    obtain ⟨node, hnode, hlist⟩ := exists_of_mem_mapM hlists hlist
    obtain ⟨causes, hcauses, hlist⟩ := bind_eq_ok_iff.1 hlist
    obtain rfl := Except.ok.inj hlist
    obtain ⟨cause, hcause, rfl⟩ := List.mem_map.1 hissue
    exact ⟨node, hnode, rfl, (mem_warningCauses_iff hcauses).1 hcause⟩
  · rintro ⟨node, hnode, hid, hwarned⟩
    obtain ⟨list, hmem, hlist⟩ := exists_mem_of_mapM hlists hnode
    obtain ⟨causes, hcauses, hlist⟩ := bind_eq_ok_iff.1 hlist
    obtain rfl := Except.ok.inj hlist
    refine ⟨_, hmem, List.mem_map.2 ⟨issue.cause, (mem_warningCauses_iff hcauses).2 hwarned, ?_⟩⟩
    rw [← hid]

end BehaviorTree
