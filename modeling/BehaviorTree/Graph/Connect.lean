import BehaviorTree.Graph.Traversal

/-!
# Connecting nodes

A connection is only added where the graph stays a behavior tree: no cycle, no second child below a
decorator or a subtree holder, no child below a leaf, no parent above a subtree holder, and a
blackboard only above a root. What is refused is told by a `Rejection`; the graph is then unchanged.

Removing connections leaves gaps in the order of the siblings; `renumber` closes them and moves the
parent's connections to the end of the list.
-/

namespace BehaviorTree

/-- Why the graph refuses a call. -/
inductive Rejection where
  | unknownNode (id : Int)
  | selfConnection (id : Int)
  | duplicateEdge (source target : Int)
  | singleChildTaken (source : Int) (kind : NodeKind) (name : String)
  | leafSource (source : Int) (kind : NodeKind)
  | subtreeTarget (target : Int) (name : String)
  | blackboardNotRoot (target : Int) (name : String)
  | cycle (source target : Int)
  | noSuchPosition (parent position : Int)
  deriving DecidableEq, Repr

namespace Rejection

open BehaviorTree.Text

/-- The code of a rejection. -/
def code : Rejection → String
  | unknownNode _ => "E1001"
  | selfConnection _ => "E1002"
  | duplicateEdge .. => "E1003"
  | singleChildTaken .. => "E1004"
  | leafSource .. => "E1005"
  | subtreeTarget .. => "E1006"
  | blackboardNotRoot .. => "E1007"
  | cycle .. => "E1008"
  | noSuchPosition .. => "E1010"

/-- The wording of a rejection. -/
def message : Rejection → String
  | unknownNode id => "Node " ++ ofInt id ++ " does not exist"
  | selfConnection _ => "A node cannot be its own child"
  | duplicateEdge source target =>
    "Node " ++ ofInt source ++ " is already connected to node " ++ ofInt target
  | singleChildTaken _ kind name => kind.text ++ " node '" ++ name ++ "' already has a child"
  | leafSource _ kind => kind.text ++ " nodes are leaves and cannot have children"
  | subtreeTarget _ name => "Subtree node '" ++ name ++ "' cannot have a parent"
  | blackboardNotRoot _ name =>
    "Blackboard nodes only attach to roots; '" ++ name ++ "' already has a parent"
  | cycle source target =>
    "Connecting " ++ ofInt source ++ " -> " ++ ofInt target ++ " would create a cycle"
  | noSuchPosition parent position =>
    "Node " ++ ofInt parent ++ " has no child at position " ++ ofInt position

/-- The node that a rejection is about. -/
def node : Rejection → Int
  | unknownNode id => id
  | selfConnection id => id
  | duplicateEdge source _ => source
  | singleChildTaken source _ _ => source
  | leafSource source _ => source
  | subtreeTarget target _ => target
  | blackboardNotRoot target _ => target
  | cycle source _ => source
  | noSuchPosition parent _ => parent

/-- The rejection as an error with a code. -/
def error (r : Rejection) : EditorError where
  code := r.code
  category := .structural
  message := r.message
  nodeId := some r.node

end Rejection

namespace Graph

/-! ### Adding a connection -/

/-- Whether a blackboard may be attached to a node: the node has no parents but blackboards. -/
def isAttachable (g : Graph) (id : Int) : Bool :=
  (g.incoming id).all fun c => (g.find? c.source).any fun parent => parent.kind = .blackboard

/-- Why a connection between two existing nodes is refused, if it is. -/
def refusal? (g : Graph) (source target : Node) : Option Rejection :=
  if source.id = target.id then some (.selfConnection source.id)
  else if g.connections.any fun c => c.source = source.id && c.target = target.id then
    some (.duplicateEdge source.id target.id)
  else if source.kind.isSingleChild && 1 ≤ g.childCount source.id then
    some (.singleChildTaken source.id source.kind source.name)
  else if source.kind.isLeaf then some (.leafSource source.id source.kind)
  else if target.kind = .subtree then some (.subtreeTarget target.id target.name)
  else if source.kind = .blackboard && !g.isAttachable target.id then
    some (.blackboardNotRoot target.id target.name)
  else if g.reaches target.id source.id then some (.cycle source.id target.id)
  else none

/-- Why connecting two ids would be refused, if it would. -/
def checkConnect (g : Graph) (source target : Int) : Option Rejection :=
  match g.find? source, g.find? target with
  | none, _ => some (.unknownNode source)
  | some _, none => some (.unknownNode target)
  | some a, some b => g.refusal? a b

/-- Makes a node the last child of another. -/
def connect (g : Graph) (source target : Int) (fromPoint toPoint : String) :
    Verdict Connection × Graph :=
  match g.checkConnect source target with
  | some rejection => (.rejected rejection.error, g)
  | none =>
    let c : Connection := ⟨source, target, g.childCount source, fromPoint, toPoint⟩
    (.accepted c, { g with connections := g.connections ++ [c] })

/-! ### Order among siblings -/

/-- A parent's connections moved to the end of the list, by their order. -/
def gather (parent : Int) (connections : List Connection) : List Connection :=
  (connections.filter fun c => c.source ≠ parent)
    ++ sortByOrder (connections.filter fun c => c.source = parent)

/-- Numbers connections from zero on in the order in which they stand. -/
def number (connections : List Connection) : List Connection :=
  connections.zipIdx.map fun (c, place) => { c with order := place }

/-- A parent's connections moved to the end of the list and numbered without gaps. -/
def renumber (parent : Int) (connections : List Connection) : List Connection :=
  (connections.filter fun c => c.source ≠ parent)
    ++ number (sortByOrder (connections.filter fun c => c.source = parent))

/-- The distinct parents of a node, ascending. A host may visit them in another sequence as well. -/
def parentIds (connections : List Connection) (id : Int) : List Int :=
  let sources := (connections.filter fun c => c.target = id).map (·.source)
  (sources.mergeSort fun a b => a ≤ b).eraseDups

/-- The connections without those that touch a node, the siblings that stay behind renumbered. -/
def detach (connections : List Connection) (id : Int) : List Connection :=
  (parentIds connections id).foldl (fun cs parent => renumber parent cs)
    (connections.filter fun c => c.source ≠ id && c.target ≠ id)

/-- Removes every connection that touches a node, and tells how many there were. -/
def disconnect (g : Graph) (id : Int) : Except Fault (Nat × Graph) := do
  let _ ← g.get id
  let removed := g.connections.countP fun c => c.source = id || c.target = id
  return (removed, { g with connections := detach g.connections id })

/-- Removes a node with every connection that touches it. -/
def deleteNode (g : Graph) (id : Int) : Except Fault (Node × Graph) := do
  let node ← g.get id
  return (node, { g with
    nodes := g.nodes.filter fun other => other.id ≠ id
    connections := detach g.connections id })

/-- The place that takes the order of the other of two places, and the other way round. -/
def exchange (a b : Int) (order : Nat) : Nat :=
  if (order : Int) = a then b.toNat else if (order : Int) = b then a.toNat else order

/-- Exchanges the children at two places below a parent. -/
def reorderChildren (g : Graph) (parent a b : Int) : Verdict Unit × Graph :=
  let own := g.connections.filter fun c => c.source = parent
  if own.all fun c => (c.order : Int) ≠ a then
    (.rejected (Rejection.noSuchPosition parent a).error, g)
  else if own.all fun c => (c.order : Int) ≠ b then
    (.rejected (Rejection.noSuchPosition parent b).error, g)
  else
    let swapped := g.connections.map fun c =>
      if c.source = parent then { c with order := exchange a b c.order } else c
    (.accepted (), { g with connections := gather parent swapped })

/-! ### Small lemmas -/

theorem checkConnect_eq_none_iff {g : Graph} {source target : Int} :
    g.checkConnect source target = none ↔
      ∃ a b, g.find? source = some a ∧ g.find? target = some b ∧ g.refusal? a b = none := by
  unfold checkConnect
  cases h : g.find? source <;> cases h' : g.find? target <;> simp

theorem connect_rejected {g : Graph} {source target : Int} {r : Rejection}
    (h : g.checkConnect source target = some r) (fromPoint toPoint : String) :
    g.connect source target fromPoint toPoint = (.rejected r.error, g) := by
  simp [connect, h]

end Graph
end BehaviorTree
