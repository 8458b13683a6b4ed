import BehaviorTree.Graph.Operation
import BehaviorTree.Graph.Record
import Mathlib.Data.List.Induction

/-! # Runs

A run starts from the empty graph and makes one call after the other: an operation, the reading of a
document, or the return to any graph that the run has passed through.  Calls that fail are part of a
run too; what they leave is where it goes on.

`holds_after` is the induction over runs: what the empty graph has and every call keeps, every graph
of a run has. -/

namespace BehaviorTree

/-- A call in a run. -/
inductive Call where
  | operate (operation : Operation)
  /-- Reads a document; one that is not accepted leaves the graph alone. -/
  | load (value : Json)
  /-- Returns to an earlier graph with its next id; age zero is the graph before the last call. -/
  | restore (age : ℕ)

/-- Whether a call reads a document. -/
def Call.isLoad : Call → Bool
  | load _ => true
  | _ => false

/-- The creation of a node of a kind, at the origin and with the name of its kind. -/
def Call.create (kind : NodeKind) : Call := .operate (.createNode kind.text (.int 0) (.int 0) "")

/-- A connection at the usual points. -/
def Call.join (source target : Int) : Call := .operate (.connect source target "right" "left")

/-- The graph that a run has reached, and those before it, the latest first. -/
structure Run where
  graph : Graph := .empty
  earlier : List Graph := []

/-- The graph after a call. -/
def Call.result (run : Run) : Call → Graph
  | operate operation => (operation.apply run.graph).2
  | load value => (Graph.ofJson value).toOption.getD run.graph
  | restore age => run.earlier[age]?.getD run.graph

theorem Call.result_load_of_ok (run : Run) {value : Json} {g : Graph}
    (h : Graph.ofJson value = .ok g) : (Call.load value).result run = g := by
  rw [Call.result, h]
  rfl

theorem Call.result_load_of_error (run : Run) {value : Json} {fault : Fault}
    (h : Graph.ofJson value = .error fault) : (Call.load value).result run = run.graph := by
  rw [Call.result, h]
  rfl

theorem Call.result_create (run : Run) (kind : NodeKind) :
    (Call.create kind).result run =
      run.graph.append (Graph.freshNode run.graph.nextId kind "" (clampPosition 0 0)) := by
  have hkind : Graph.parseKind kind.text = .ok kind := by
    simp [Graph.parseKind, NodeKind.ofText?_text]
  have hzero : Graph.coordinate (.int 0) = .ok 0 := by decide
  simp only [Call.create, Call.result, Operation.graph_apply, Operation.carryOut,
    Graph.createNode, hkind, hzero]
  rfl

namespace Run

/-- A run that goes on with a call. -/
def step (run : Run) (call : Call) : Run := ⟨call.result run, run.graph :: run.earlier⟩

/-- The run that makes some calls. -/
def after (calls : List Call) : Run := calls.foldl step {}

theorem after_append (calls : List Call) (call : Call) :
    after (calls ++ [call]) = (after calls).step call := by
  simp [after]

/-- A connection that is accepted comes behind the others. -/
theorem graph_after_join {calls : List Call} {g : Graph} (hg : (after calls).graph = g) {a b : Int}
    (h : g.checkConnect a b = none) :
    (after (calls ++ [.join a b])).graph = { g with connections := g.connections ++
      [⟨a, b, g.childCount a, "right", "left"⟩] } := by
  subst hg
  rw [after_append]
  simp only [step, Call.join, Call.result, Operation.graph_apply, Operation.carryOut,
    Graph.connect, h]

/-- All graphs of a run have a property. -/
def Holds (run : Run) (P : Graph → Prop) : Prop := P run.graph ∧ ∀ g ∈ run.earlier, P g

theorem Holds.step {run : Run} {P : Graph → Prop} (h : run.Holds P) {call : Call}
    (hnext : P (call.result run)) : (run.step call).Holds P :=
  ⟨hnext, fun _ hg => (List.mem_cons.1 hg).elim (fun e => e ▸ h.1) (h.2 _)⟩

/-- The return to an earlier graph keeps whatever all graphs of the run have. -/
theorem Holds.restore {run : Run} {P : Graph → Prop} (h : run.Holds P) (age : ℕ) :
    P ((Call.restore age).result run) := by
  change P (run.earlier[age]?.getD run.graph)
  cases hg : run.earlier[age]? with
  | none => exact h.1
  | some g => exact h.2 g (List.mem_of_getElem? hg)

/-- What a document that is not accepted leaves is the graph before. -/
theorem load_result (run : Run) (value : Json) :
    (Call.load value).result run = run.graph ∨
      Graph.ofJson value = .ok ((Call.load value).result run) := by
  cases h : Graph.ofJson value with
  | error fault => exact Or.inl (Call.result_load_of_error run h)
  | ok g => exact Or.inr (congrArg Except.ok (Call.result_load_of_ok run h).symm)

/-- **Induction over runs.**  The step may use where in the run the call is made. -/
theorem holds_after {P : Graph → Prop} (hempty : P .empty) (calls : List Call)
    (hoperate : ∀ before operation, before ++ [.operate operation] <+: calls →
      (after before).Holds P → P (operation.apply (after before).graph).2)
    (hload : ∀ value g, Call.load value ∈ calls → Graph.ofJson value = .ok g → P g) :
    (after calls).Holds P := by
  induction calls using List.reverseRecOn with
  | nil => exact ⟨hempty, fun _ hg => absurd hg List.not_mem_nil⟩
  | append_singleton calls call ih =>
      have hcalls : calls <+: calls ++ [call] := List.prefix_append calls [call]
      have hbefore := ih (fun before operation hp => hoperate before operation (hp.trans hcalls))
        (fun value g hm => hload value g (List.mem_append_left _ hm))
      rw [after_append]
      refine hbefore.step ?_
      cases call with
      | operate operation => exact hoperate calls operation (List.prefix_refl _) hbefore
      | load value =>
          rcases load_result (after calls) value with h | h
          · exact h ▸ hbefore.1
          · exact hload value _ (by simp) h
      | restore age => exact hbefore.restore age

end Run
end BehaviorTree
