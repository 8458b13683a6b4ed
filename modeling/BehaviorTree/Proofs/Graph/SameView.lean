import BehaviorTree.Proofs.Graph.Rearranged
import BehaviorTree.Proofs.Lua.Exported
import BehaviorTree.Validation.Report

/-! # What the sequence of the connections does not show

Whatever is read off a graph is a `SameView` of rearranged graphs: the children, the roots, the
report of a validation and the script, or why there is none.

`MayLeave` says what an operation may leave when the parents of a node are renumbered in any
sequence.  All of these graphs are rearrangements of each other, from rearranged graphs too, and
after any number of operations (`MayReach.rearranged`). -/

namespace BehaviorTree

open BehaviorTree.Lua

/-! ### Views -/

/-- Two graphs that nobody can tell apart by looking. -/
structure Graph.SameView (g g' : Graph) : Prop where
  children (id : Int) : g'.children id = g.children id
  roots : g'.roots = g.roots
  report (warnings : Bool) : g'.validate warnings = g.validate warnings
  script (modulePath : String) : Script.ofGraph g' modulePath = Script.ofGraph g modulePath
  text (modulePath indent : String) :
    scriptText g' modulePath indent = scriptText g modulePath indent

namespace Graph.Rearranged

variable {g g' : Graph} (h : g.Rearranged g')

include h

theorem blackboardFields_eq : g'.blackboardFields = g.blackboardFields := by
  rw [blackboardFields, blackboardFields, h.ofKind_eq]

theorem resolver_eq : Resolver.ofGraph g' = Resolver.ofGraph g := by
  rw [Resolver.ofGraph, Resolver.ofGraph, h.blackboardFields_eq]

theorem warnings_eq : Validation.warnings g' = Validation.warnings g := by
  simp only [Validation.warnings, h.resolver_eq, h.ofKind_eq, h.nodes]

theorem errors_eq : g'.errors = g.errors := by
  simp only [errors, Validation.subtreeNames, Validation.blackboardKeys, h.nodes, h.ofKind_eq,
    h.hasChild_eq]

theorem validate_eq (warnings : Bool) : g'.validate warnings = g.validate warnings := by
  simp only [validate, h.warnings_eq, h.errors_eq, Validation.subtreeNames,
    Validation.blackboardKeys, h.ofKind_eq]

theorem scriptRoot_eq (ho : g.Ordered) : g'.scriptRoot = g.scriptRoot := by
  simp only [scriptRoot, firstTree?, h.roots_eq, h.children_eq ho]

/-- The exporter of rearranged graphs is the same but for the graph. -/
theorem exporter_eq (modulePath : String) :
    Exporter.ofGraph g' modulePath = { Exporter.ofGraph g modulePath with graph := g' } := by
  rw [Exporter.ofGraph, h.resolver_eq]
  rfl

end Graph.Rearranged

namespace Lua

section exporters

variable {e : Exporter} {g' : Graph} (ho : e.graph.Ordered) (h : e.graph.Rearranged g')

include ho h

theorem Exporter.bodyOn_rearranged (main : Bool) (path : List Int) (node : Node) :
    Exporter.bodyOn { e with graph := g' } main path node = e.bodyOn main path node := by
  induction path, node using written_induct e main with
  | step path node ih =>
      have hhead : Exporter.head { e with graph := g' } node = e.head node := rfl
      have hshown : Exporter.shownChildren { e with graph := g' } main node.id =
          e.shownChildren main node.id := by
        simp only [shownChildren, h.children_eq ho]
      have hbody : ∀ child ∈ e.shownChildren main node.id,
          Exporter.childBody? { e with graph := g' } main path node.id child =
            e.childBody? main path node.id child := by
        intro child hchild
        unfold childBody?
        split_ifs with hpath
        · rfl
        · rw [ih child (mem_writtenChildren_iff.2 ⟨hchild, hpath⟩)]
      rw [bodyOn_eq, bodyOn_eq, hhead, hshown, mapM_congr hbody]

theorem Exporter.body?_rearranged (main : Bool) (node : Node) :
    Exporter.body? { e with graph := g' } main node = e.body? main node := by
  simp only [body?, bodyOn_rearranged ho h]

theorem Script.subtreesOf_rearranged : subtreesOf { e with graph := g' } = subtreesOf e := by
  have hholder : ∀ holder, holderBody? { e with graph := g' } holder = holderBody? e holder :=
    fun holder => by
      simp only [holderBody?, h.children_eq ho, Exporter.body?_rearranged ho h]
  simp only [subtreesOf, h.ofKind_eq, hholder]

end exporters

end Lua

namespace Graph

/-- **Rearranged graphs look the same.** -/
theorem Rearranged.sameView {g g' : Graph} (h : g.Rearranged g') (ho : g.Ordered) :
    g.SameView g' := by
  have hscript : ∀ modulePath, Script.ofGraph g' modulePath = Script.ofGraph g modulePath := by
    intro modulePath
    have he : (Exporter.ofGraph g modulePath).graph = g := rfl
    simp only [Script.ofGraph, h.scriptRoot_eq ho, h.ofKind_eq, h.exporter_eq,
      Exporter.body?_rearranged (he ▸ ho) (he ▸ h), Script.subtreesOf_rearranged (he ▸ ho) (he ▸ h)]
  refine ⟨h.children_eq ho, h.roots_eq, h.validate_eq, hscript, fun modulePath indent => ?_⟩
  rw [scriptText, scriptText, hscript]

/-! ### Visiting parents in any sequence -/

/-- What an operation may leave, with the parents of a node that goes visited in any sequence. -/
inductive MayLeave (g : Graph) : Operation → Graph → Prop
  /-- What it does leave. -/
  | apply (operation : Operation) : MayLeave g operation (operation.apply g).2
  /-- A node goes, and its parents are renumbered as they come. -/
  | delete {id : Int} {node : Node} (hget : g.get id = .ok node) {parents : List Int}
      (hparents : parents.Perm (parentIds g.connections id)) :
      MayLeave g (.deleteNode id) { g with
        nodes := g.nodes.filter fun other => other.id ≠ id
        connections := detachAlong parents g.connections id }
  /-- The connections of a node go, and its parents are renumbered as they come. -/
  | disconnect {id : Int} {node : Node} (hget : g.get id = .ok node) {parents : List Int}
      (hparents : parents.Perm (parentIds g.connections id)) :
      MayLeave g (.disconnect id) { g with connections := detachAlong parents g.connections id }

/-- What operations may leave, one after the other. -/
inductive MayReach : Graph → List Operation → Graph → Prop
  | nil (g : Graph) : MayReach g [] g
  | cons {g r s : Graph} {operation : Operation} {rest : List Operation}
      (hfirst : g.MayLeave operation r) (hrest : MayReach r rest s) :
      MayReach g (operation :: rest) s

/-- Each graph that an operation may leave is a rearrangement of the one that it leaves. -/
theorem MayLeave.rearranged_apply {g r : Graph} (ho : g.Ordered) {operation : Operation}
    (h : g.MayLeave operation r) : (operation.apply g).2.Rearranged r := by
  cases h with
  | apply => exact .refl _
  | @delete id node hget parents hparents =>
      have happly : ((Operation.deleteNode id).apply g).2 = { g with
          nodes := g.nodes.filter fun other => other.id ≠ id
          connections := detach g.connections id } := by
        simp only [Operation.graph_apply, Operation.carryOut, deleteNode, hget]
        rfl
      rw [happly]
      exact ⟨rfl, rfl, detachAlong_perm ho (.refl _) (.refl _) hparents⟩
  | @disconnect id node hget parents hparents =>
      have happly : ((Operation.disconnect id).apply g).2 =
          { g with connections := detach g.connections id } := by
        simp only [Operation.graph_apply, Operation.carryOut, Graph.disconnect, hget]
        rfl
      rw [happly]
      exact ⟨rfl, rfl, detachAlong_perm ho (.refl _) (.refl _) hparents⟩

/-- **A step from rearranged graphs** leaves rearranged graphs, whichever sequences are taken. -/
theorem MayLeave.rearranged {g g' r r' : Graph} (ho : g.Ordered) (h : g.Rearranged g')
    {operation : Operation} (hr : g.MayLeave operation r) (hr' : g'.MayLeave operation r') :
    r.Ordered ∧ r.Rearranged r' := by
  have halike := h.apply ho operation
  have hleft := hr.rearranged_apply ho
  have hright := hr'.rearranged_apply (h.ordered ho)
  exact ⟨hleft.ordered halike.ordered, hleft.symm.trans (halike.graphs.trans hright)⟩

/-- **A run from rearranged graphs**, by induction on its operations: step by step the graphs stay
ordered and rearranged. -/
theorem MayReach.rearranged {g g' r r' : Graph} {operations : List Operation}
    (hr : g.MayReach operations r) (hr' : g'.MayReach operations r') (ho : g.Ordered)
    (h : g.Rearranged g') : r.Ordered ∧ r.Rearranged r' := by
  induction hr generalizing g' with
  | nil g =>
      cases hr'
      exact ⟨ho, h⟩
  | cons hfirst hrest ih =>
      cases hr' with
      | cons hfirst' hrest' =>
          obtain ⟨ho', h'⟩ := MayLeave.rearranged ho h hfirst hfirst'
          exact ih hrest' ho' h'

/-- **The sequence of the connections is not observable**: of ordered graphs that differ in it only,
all views are the same, every operation gives the same answer on both, and whatever it may leave of
them differs in the sequence only and looks the same again. -/
theorem sequence_unobservable {g g' : Graph} (ho : g.Ordered) (h : g.Rearranged g') :
    g.SameView g' ∧ ∀ operation : Operation,
      (operation.apply g').1 = (operation.apply g).1 ∧
      ∀ r r', g.MayLeave operation r → g'.MayLeave operation r' →
        r.Ordered ∧ r.Rearranged r' ∧ r.SameView r' := by
  refine ⟨h.sameView ho, fun operation => ⟨(h.apply ho operation).answer, fun r r' hr hr' => ?_⟩⟩
  obtain ⟨hordered, hrearranged⟩ := MayLeave.rearranged ho h hr hr'
  exact ⟨hordered, hrearranged, hrearranged.sameView hordered⟩

/-- Two sequences that have the same two actions, in opposite orders. -/
def sharedActions : List Connection :=
  [{ source := 1, target := 3, order := 1 }, { source := 1, target := 4, order := 0 },
    { source := 2, target := 3, order := 0 }, { source := 2, target := 4, order := 1 }]

/-- The graph of the two sequences, with its connections. -/
def sharingGraph (connections : List Connection) : Graph where
  nodes := [{ id := 1, kind := .sequence }, { id := 2, kind := .sequence },
    { id := 3, kind := .action, func := "hide" }, { id := 4, kind := .action, func := "seek" }]
  connections := connections
  nextId := 5

theorem ordered_sharingGraph : (sharingGraph sharedActions).Ordered := by
  intro parent
  by_cases h : parent = 1 ∨ parent = 2
  · rcases h with rfl | rfl <;> unfold Contiguous <;> decide
  · obtain ⟨h1, h2⟩ := not_or.1 h
    refine contiguous_of_siblings_nil (siblings_of_none ?_)
    simpa [sharingGraph, sharedActions] using ⟨Ne.symm h1, Ne.symm h2⟩

theorem parentIds_sharedActions : parentIds sharedActions 3 = [1, 2] := by
  have hsorted : ([1, 2] : List Int).mergeSort (fun a b => a ≤ b) = [1, 2] :=
    List.mergeSort_of_pairwise (by decide)
  have hsources : (sharedActions.filter fun c => c.target = 3).map (·.source) = [1, 2] := by decide
  rw [parentIds, hsources, hsorted]
  decide

/-- The two sequences lose an action they share, one before the other and the other way round: the
lists that are left differ, and the graphs look the same. -/
theorem sequence_unobservable_sharingGraph :
    detachAlong [1, 2] sharedActions 3 ≠ detachAlong [2, 1] sharedActions.reverse 3 ∧
      SameView
        { sharingGraph sharedActions with
          nodes := (sharingGraph sharedActions).nodes.filter fun other => other.id ≠ 3
          connections := detachAlong [1, 2] sharedActions 3 }
        { sharingGraph sharedActions.reverse with
          nodes := (sharingGraph sharedActions.reverse).nodes.filter fun other => other.id ≠ 3
          connections := detachAlong [2, 1] sharedActions.reverse 3 } := by
  have hrearranged : (sharingGraph sharedActions).Rearranged (sharingGraph sharedActions.reverse) :=
    ⟨rfl, rfl, sharedActions.reverse_perm⟩
  have hunobservable := sequence_unobservable ordered_sharingGraph hrearranged
  have hparents : [1, 2].Perm (parentIds sharedActions 3) := by rw [parentIds_sharedActions]
  have hparents' : [2, 1].Perm (parentIds sharedActions.reverse 3) := by
    rw [parentIds_eq_of_perm sharedActions.reverse_perm, parentIds_sharedActions]
    exact .swap 1 2 []
  have hleave : MayLeave (sharingGraph sharedActions) (.deleteNode 3) _ := .delete rfl hparents
  have hleave' : MayLeave (sharingGraph sharedActions.reverse) (.deleteNode 3) _ :=
    .delete rfl hparents'
  exact ⟨by decide +kernel, ((hunobservable.2 (.deleteNode 3)).2 _ _ hleave hleave').2.2⟩

end Graph
end BehaviorTree
