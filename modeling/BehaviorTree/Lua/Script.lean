import BehaviorTree.Graph.Traversal
import BehaviorTree.Keyed
import BehaviorTree.Lua.Table

/-!
# Scripts

A graph is exported as one table for the main tree and one for each subtree. A node's table lists
its type and name, then the attributes that are not empty, then its children in the order in which
they run. Blackboards are no part of a script; in the main tree subtree holders are left out too.

The export does not look at the validation of a graph: what attributes there are is written.

* `Graph.scriptRoot`: the node that the main tree starts from.
* `Exporter.body`: the table of a node. A child that already stands above itself is left out, so the
  export also ends on graphs with cycles.
* `Script`: the exported tables; `Script.render` writes them.
-/

namespace BehaviorTree

open BehaviorTree.Text BehaviorTree.Lua

/-! ### The root -/

/-- The first child of a node that is no blackboard. -/
def Graph.firstTree? (g : Graph) (id : Int) : Option Node :=
  (g.children id).find? fun child => child.kind ≠ .blackboard

/-- The node that the main tree starts from: the first tree below a root blackboard, otherwise the
first root that is no blackboard. -/
def Graph.scriptRoot (g : Graph) : Except ExportFailure Node :=
  let boards := g.roots.filter fun node => node.kind = .blackboard
  let others := g.roots.filter fun node => node.kind ≠ .blackboard
  if g.roots.isEmpty then .error .noRoot
  else match boards.findSome? (fun board => g.firstTree? board.id), others with
    | some node, _ => .ok node
    | none, node :: _ => .ok node
    | none, [] => .error .noUsableRoot

namespace Lua

/-! ### The table of a node -/

/-- What the table of a node depends on besides the node: the graph, the module path in front of
function names, and the blackboard fields. -/
structure Exporter where
  graph : Graph
  modulePath : String
  resolver : Resolver
  deriving Repr

/-- The exporter of a graph. Blanks around the module path do not count. -/
def Exporter.ofGraph (g : Graph) (modulePath : String) : Exporter :=
  ⟨g, trim modulePath, Resolver.ofGraph g⟩

/-- The keys of the details that are numbers or durations, in the order of writing. -/
def detailKeys : List (Detail × String) :=
  [(.timeoutDuration, "timeout_duration"), (.cooldownDuration, "cooldown_duration"),
   (.waitDuration, "wait_duration"), (.repeaterCount, "repeater_count"),
   (.retryCount, "max_retries")]

/-- An entry whose value is a leaf. -/
def leafEntry (name : String) (leaf : Leaf) : Key × Code Leaf := (.named name, .leaf leaf)

namespace Exporter

variable (e : Exporter)

/-- The leaf of an attribute text. -/
def leafOf (text : String) : Except Fault Leaf := Leaf.ofResolved (e.resolver.resolve text)

/-- The leaf of a function attribute. -/
def functionLeaf (text : String) : Except Fault Leaf :=
  match parseValue text true with
  | .reference _ => e.leafOf text
  | .rawPath path => .ok (.module path)
  | .literal name =>
    .ok (.module (if e.modulePath.isEmpty then name else e.modulePath ++ "." ++ name))

/-- The leaf of a policy attribute. -/
def policyLeaf (text : String) : Except Fault Leaf :=
  match e.resolver.resolve text with
  | .literal name =>
    .ok (if isIdentifier name then .member .parallelPolicy name else .indexed .parallelPolicy name)
  | reference => Leaf.ofResolved reference

/-- The leaf of a subtree name: a text even where it looks like a number. -/
def subtreeLeaf (text : String) : Except Fault Leaf :=
  match e.resolver.resolve text with
  | .literal name => .ok (.scalar (.text name))
  | reference => Leaf.ofResolved reference

/-- The leaf of an argument: an empty text stands for no value. -/
def paramLeaf (text : String) : Except Fault Leaf :=
  match e.resolver.resolve text with
  | .literal value => if value.isEmpty then .ok .nil else Leaf.ofResolved (.literal value)
  | reference => Leaf.ofResolved reference

/-- The entry of an argument; an argument without a name has none. -/
def paramEntry (param : Param) : Except Fault (List (Key × Code Leaf)) :=
  if param.name.isEmpty then .ok []
  else do return [(.indexed param.name, .leaf (← e.paramLeaf param.value))]

/-- The entry of an attribute that is not empty. -/
def attributeEntry (name text : String) (leaf : String → Except Fault Leaf) :
    Except Fault (Table Leaf) :=
  if text.isEmpty then .ok [] else do return [leafEntry name (← leaf text)]

/-- The entry of the arguments, unless there are none. -/
def paramsEntry (node : Node) : Except Fault (Table Leaf) :=
  match node.params.getD [] with
  | [] => .ok []
  | params => do return [(.named "params", .table (← params.mapM e.paramEntry).flatten)]

/-- The entry of the subtree that a decorator refers to. -/
def subtreeEntry (node : Node) : Except Fault (Table Leaf) :=
  if node.decorator = some .subtreeRef then
    attributeEntry "subtree_name" (node.detailText .subtree) e.subtreeLeaf
  else .ok []

/-- The entries of a node but for its children. -/
def head (node : Node) : Except Fault (Table Leaf) := do
  let func ← attributeEntry "func" node.func e.functionLeaf
  let params ← e.paramsEntry node
  let policy ← attributeEntry "policy" node.policy e.policyLeaf
  let details ← detailKeys.mapM fun (d, key) => attributeEntry key (node.detailText d) e.leafOf
  let subtree ← e.subtreeEntry node
  return leafEntry "type" (.member .nodeType node.effectiveType)
    :: leafEntry "name" (.scalar (.text node.name))
    :: (func ++ params ++ policy ++ details.flatten ++ subtree)

/-- Whether a child has a place in a script. `main` says that the main tree is written. -/
def isShown (main : Bool) (child : Node) : Bool :=
  child.kind ≠ .blackboard && !(main && child.kind = .subtree)

/-- The children of a node that have a place in a script. -/
def shownChildren (main : Bool) (id : Int) : List Node :=
  (e.graph.children id).filter (isShown main)

/-- The children of a node that are written below it: those that do not stand above it. `path` holds
the ids from the root to the node. -/
def writtenChildren (main : Bool) (path : List Int) (id : Int) : List Node :=
  (e.shownChildren main id).filter fun child => child.id ∉ path

theorem unvisited_of_shown {main : Bool} {path : List Int} {id : Int} {child : Node}
    (h : child ∈ e.shownChildren main id) (hpath : child.id ∉ path) :
    unvisited (e.graph.nodes.map (·.id)) (child.id :: path)
      < unvisited (e.graph.nodes.map (·.id)) path :=
  unvisited_cons_lt (List.mem_map_of_mem (Graph.mem_children (List.mem_filter.1 h).1)) hpath

/-- The entry of the children, unless there are none. -/
def childrenEntry (bodies : List (Table Leaf)) : Table Leaf :=
  if bodies.isEmpty then []
  else [(.named "children", .table (bodies.map fun body => (.positional, .table body)))]

/-- The table of a node. `path` holds the ids from the root to the node, which is among them. A
child that stands above the node is left out, with a log entry. -/
def bodyOn (main : Bool) (path : List Int) (node : Node) : Except Fault (Table Leaf) := do
  let entries ← e.head node
  let bodies ← (e.shownChildren main node.id).attach.mapM fun ⟨child, _⟩ =>
    if _hpath : child.id ∈ path then do
      logEntry [node.id, child.id]
      return none
    else some <$> bodyOn main (child.id :: path) child
  return entries ++ childrenEntry (bodies.filterMap id)
termination_by unvisited (e.graph.nodes.map (·.id)) path
decreasing_by exact e.unvisited_of_shown ‹_› ‹_›

/-- The table of a node and of what stands below it; a blackboard has none. -/
def body? (main : Bool) (node : Node) : Except Fault (Option (Table Leaf)) :=
  if node.kind = .blackboard then .ok none else some <$> e.bodyOn main [node.id] node

end Exporter

/-! ### Scripts -/

/-- An exported graph: the id of the root, the main tree, and the trees of the subtree holders by
their names. -/
structure Script where
  root : Int
  main : Table Leaf
  subtrees : List (String × Table Leaf) := []
  deriving Repr, BEq

namespace Script

/-- The tree of a subtree holder: the table of its first child. -/
def holderBody? (e : Exporter) (holder : Node) : Except Fault (Option (Table Leaf)) :=
  match e.graph.children holder.id with
  | [] => .ok none
  | child :: _ => e.body? false child

/-- The trees of the subtree holders, by their trimmed names. Of holders with one name the last
counts. -/
def subtreesOf (e : Exporter) : Except Fault (List (String × Table Leaf)) := do
  let bodies ← (e.graph.ofKind .subtree).mapM fun holder => do
    return (trim holder.name, ← holderBody? e holder)
  return bodies.foldl (fun subtrees (name, body) => match body with
    | some body => Keyed.put Prod.fst (name, body) subtrees
    | none => subtrees) []

/-- The script of a graph. The log entry behind it names the root and the number of subtrees. -/
def ofGraph (g : Graph) (modulePath : String) : Except Fault Script := do
  let root ← g.scriptRoot.mapError .exporting
  let e := Exporter.ofGraph g modulePath
  let main := !(g.ofKind .subtree).isEmpty
  let some body ← e.body? main root | .error (.exporting .noUsableRoot)
  let subtrees ← subtreesOf e
  logEntry [root.id, subtrees.length]
  return ⟨root.id, body, subtrees⟩

/-- The main tree with the trees of the subtrees as its last entry. -/
def table (script : Script) : Table Leaf :=
  if script.subtrees.isEmpty then script.main
  else script.main ++ [(.named "subtrees",
    .table (script.subtrees.map fun (name, body) => (.indexed name, .table body)))]

/-- The text of a table of a script. -/
def renderTable (indent : String) (table : Table Leaf) : String :=
  (Code.table table).render Leaf.write indent 0

/-- The text of a script. -/
def render (script : Script) (indent : String) : String :=
  "return " ++ renderTable indent script.table

end Script

/-- The text of the script of a graph. -/
def scriptText (g : Graph) (modulePath indent : String) : Except Fault String := do
  return (← Script.ofGraph g modulePath).render indent

end Lua
end BehaviorTree
