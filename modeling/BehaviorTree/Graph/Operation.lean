import BehaviorTree.Graph.Edit

/-!
# Operations

The calls that change a graph, as data. A run of an editor is a list of operations, and what holds
of every reachable graph is proved over `Operation.apply`.

* `Operation.carryOut`: the outcome of an operation and the graph that it leaves.
* `Operation.apply`: the same with the log entry that ends the operation. A number in it that is too
  long to be written out makes the call fail, after the graph has changed.
* `Outcome.changesGraph`: whether an outcome stands for a change; a refused call and the removal of
  nothing do not.
-/

namespace BehaviorTree

/-- A call that changes a graph. -/
inductive Operation where
  | createNode (kind : String) (x y : Number) (name : String)
  | deleteNode (id : Int)
  | connect (source target : Int) (fromPoint toPoint : String)
  | disconnect (id : Int)
  | reorderChildren (parent a b : Int)
  | updateNode (id : Int) (edits : List (String × String))
  | setDecorator (id : Int) (kind : String)
  | moveNode (id : Int) (x y : Number)
  | moveWithDescendants (id : Int) (dx dy : Number)
  | addParam (id : Int) (name value : String)
  | updateParam (id index : Int) (name value : Option String)
  | removeParam (id index : Int)
  | addField (id : Int) (key value comment : String)
  | updateField (id index : Int) (key value comment : Option String)
  | removeField (id index : Int)
  | pasteNode (copied : Node)
  | clear
  deriving Repr

/-- What an operation answers. -/
inductive Outcome where
  | node (node : Node)
  | moved (nodes : List Node)
  | connected (verdict : Verdict Connection)
  | reordered (verdict : Verdict Unit)
  | removed (count : Nat)
  | param (param : Param)
  | field (field : Field)
  | done
  deriving Repr

/-- Whether an outcome stands for a change of the graph. -/
def Outcome.changesGraph : Outcome → Bool
  | .connected (.rejected _) | .reordered (.rejected _) => false
  | .removed count => count ≠ 0
  | _ => true

namespace Operation

/-- The outcome of a call that leaves the graph alone when it fails. -/
def attempt {α : Type} (g : Graph) (wrap : α → Outcome) :
    Except Fault (α × Graph) → Graph.Edited Outcome
  | .ok (a, g') => (.ok (wrap a), g')
  | .error fault => (.error fault, g)

/-- The outcome of a call on a list of a node. -/
def answer {α : Type} (wrap : α → Outcome) (edited : Graph.Edited α) : Graph.Edited Outcome :=
  (edited.1.map wrap, edited.2)

/-- Carries an operation out on a graph. -/
def carryOut (g : Graph) : Operation → Graph.Edited Outcome
  | createNode kind x y name => attempt g .node (g.createNode kind x y name)
  | deleteNode id => attempt g .node (g.deleteNode id)
  | connect source target fromPoint toPoint =>
    let (verdict, g') := g.connect source target fromPoint toPoint
    (.ok (.connected verdict), g')
  | disconnect id => attempt g .removed (g.disconnect id)
  | reorderChildren parent a b =>
    let (verdict, g') := g.reorderChildren parent a b
    (.ok (.reordered verdict), g')
  | updateNode id edits => attempt g .node (g.updateNode id edits)
  | setDecorator id kind => attempt g .node (g.setDecorator id kind)
  | moveNode id x y => attempt g .node (g.moveNode id x y)
  | moveWithDescendants id dx dy => attempt g .moved (g.moveWithDescendants id dx dy)
  | addParam id name value => answer .param (g.addParam id name value)
  | updateParam id index name value => answer .param (g.updateParam id index name value)
  | removeParam id index => answer .param (g.removeParam id index)
  | addField id key value comment => answer .field (g.addField id key value comment)
  | updateField id index key value comment =>
    answer .field (g.updateField id index key value comment)
  | removeField id index => answer .field (g.removeField id index)
  | pasteNode copied => attempt g .node (g.pasteNode copied)
  | clear => (.ok .done, Graph.empty)

/-! ### Logging -/

/-- The numbers in the log entry of an operation on a graph, by its outcome. -/
def logged (g : Graph) (operation : Operation) (outcome : Outcome) : List Int :=
  match operation, outcome with
  | createNode .., .node node | pasteNode _, .node node => [node.id]
  | deleteNode id, _ => id :: Graph.parentIds g.connections id
  | connect source target .., .connected (.accepted c) => [source, target, c.order]
  | connect source target .., _ => [source, target]
  | disconnect id, .removed count => [id, count]
  | reorderChildren parent a b, .reordered (.accepted _) => [a, b, parent]
  | reorderChildren parent a b, _ =>
    [parent, if g.connections.any fun c => c.source = parent && c.order = a then b else a]
  | setDecorator id _, _ => [id]
  | _, _ => []

/-- Logs an outcome. -/
def log (g : Graph) (operation : Operation) (outcome : Outcome) : Except Fault Outcome :=
  if (operation.logged g outcome).all Text.isWritable then .ok outcome else .error .integerTooLong

/-- Carries an operation out on a graph and logs it. -/
def apply (g : Graph) (operation : Operation) : Graph.Edited Outcome :=
  let (answer, g') := operation.carryOut g
  (answer >>= operation.log g, g')

/-! ### Small lemmas -/

theorem graph_apply (g : Graph) (operation : Operation) :
    (operation.apply g).2 = (operation.carryOut g).2 := rfl

end Operation
end BehaviorTree
