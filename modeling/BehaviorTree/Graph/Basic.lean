import BehaviorTree.Fault

/-!
# Graphs

A graph holds its nodes in the order of their creation, its connections in a list, and the id that
the next node gets. The children of a node are the targets of its connections by their `order`, so
the position of a connection in the list does not matter to them.

The queries are total: an id that names no node has no children and no parents.
-/

namespace BehaviorTree

/-- A directed edge from a parent to a child. `order` is the child's place among its siblings; the
two points say where the line is attached. -/
structure Connection where
  source : Int
  target : Int
  order : Nat := 0
  fromPoint : String := "right"
  toPoint : String := "left"
  deriving DecidableEq, Repr, Inhabited

/-- A graph under edit. -/
structure Graph where
  nodes : List Node := []
  connections : List Connection := []
  nextId : Int := 1
  deriving DecidableEq, Repr, Inhabited

namespace Graph

/-- The graph without nodes, whose first node gets the id one. -/
def empty : Graph := {}

/-- Connections in the order of their places, stably. -/
def sortByOrder (connections : List Connection) : List Connection :=
  connections.mergeSort fun a b => a.order ≤ b.order

/-- Whether a node has an id. -/
def contains (g : Graph) (id : Int) : Bool := g.nodes.any fun node => node.id = id

/-- The node of an id. -/
def find? (g : Graph) (id : Int) : Option Node := g.nodes.find? fun node => node.id = id

/-- The node of an id that is expected to exist. -/
def get (g : Graph) (id : Int) : Except Fault Node :=
  match g.find? id with
  | some node => .ok node
  | none => .error (Fault.unknownNode id).raised

/-- The connections out of a node, by their order. -/
def outgoing (g : Graph) (id : Int) : List Connection :=
  sortByOrder (g.connections.filter fun c => c.source = id)

/-- The connections into a node. -/
def incoming (g : Graph) (id : Int) : List Connection := g.connections.filter fun c => c.target = id

/-- The children of a node, in the order in which they run. -/
def children (g : Graph) (id : Int) : List Node :=
  (g.outgoing id).filterMap fun c => g.find? c.target

/-- The parents of a node. -/
def parents (g : Graph) (id : Int) : List Node :=
  (g.incoming id).filterMap fun c => g.find? c.source

/-- How many connections leave a node. -/
def childCount (g : Graph) (id : Int) : Nat := g.connections.countP fun c => c.source = id

/-- Whether a connection enters a node. -/
def hasParent (g : Graph) (id : Int) : Bool := g.connections.any fun c => c.target = id

/-- Whether a connection leaves a node. -/
def hasChild (g : Graph) (id : Int) : Bool := g.connections.any fun c => c.source = id

/-- The nodes that no connection enters, in the order of their creation. -/
def roots (g : Graph) : List Node := g.nodes.filter fun node => !g.hasParent node.id

/-- The nodes of a kind, in the order of their creation. -/
def ofKind (g : Graph) (kind : NodeKind) : List Node := g.nodes.filter fun node => node.kind = kind

/-- The fields of all blackboards, by the creation of the node and then by their place in it. -/
def blackboardFields (g : Graph) : List Field :=
  (g.ofKind .blackboard).flatMap fun node => node.fields.getD []

/-- Puts a node in the place of the node with its id. -/
def replace (g : Graph) (node : Node) : Graph :=
  { g with nodes := g.nodes.map fun other => if other.id = node.id then node else other }

/-- Adds a node behind the others and moves the allocator on. -/
def append (g : Graph) (node : Node) : Graph :=
  { g with nodes := g.nodes ++ [node], nextId := g.nextId + 1 }

/-! ### Small lemmas -/

theorem mem_of_find? {g : Graph} {id : Int} {node : Node} (h : g.find? id = some node) :
    node ∈ g.nodes ∧ node.id = id := by
  refine ⟨List.mem_of_find?_eq_some h, ?_⟩
  have := List.find?_some h
  simpa using this

theorem mem_children {g : Graph} {id : Int} {node : Node} (h : node ∈ g.children id) :
    node ∈ g.nodes := by
  simp only [children, List.mem_filterMap] at h
  obtain ⟨c, _, hc⟩ := h
  exact (mem_of_find? hc).1

theorem mem_outgoing {g : Graph} {id : Int} {c : Connection} :
    c ∈ g.outgoing id ↔ c ∈ g.connections ∧ c.source = id := by
  simp [outgoing, sortByOrder, List.mem_mergeSort]

theorem get_eq_ok_iff {g : Graph} {id : Int} {node : Node} :
    g.get id = .ok node ↔ g.find? id = some node := by
  unfold get
  split <;> simp_all

end Graph
end BehaviorTree
