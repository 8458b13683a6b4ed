import BehaviorTree.Graph.Connect
import BehaviorTree.Graph.CopyName

/-!
# Editing a graph

The calls that change a graph besides connecting its nodes: nodes are created, pasted, moved and
given attributes, arguments and blackboard fields. A call either succeeds with a new graph or is a
fault.

Calls on a list of arguments or fields first make sure that the node has such a list, so that a
fault in the place asked for still leaves an empty list behind; they return the graph beside the
answer.
-/

namespace BehaviorTree

namespace Graph

/-! ### Nodes -/

/-- The kind of a text. -/
def parseKind (text : String) : Except Fault NodeKind :=
  match NodeKind.ofText? text with
  | some kind => .ok kind
  | none => .error (.unknownNodeKind text)

/-- The decorator behavior of a text. -/
def parseDecorator (text : String) : Except Fault DecoratorKind :=
  match DecoratorKind.ofText? text with
  | some kind => .ok kind
  | none => .error (.unknownDecoratorKind text)

/-- A coordinate as a double. -/
def coordinate (n : Number) : Except Fault Float :=
  match n.toFloat? with
  | some x => .ok x
  | none => .error .outOfRange

/-- A fresh node with the lists that its kind uses. -/
def freshNode (id : Int) (kind : NodeKind) (name : String) (position : Float × Float) : Node where
  id := id
  kind := kind
  name := if name.isEmpty then kind.defaultName else name
  x := position.1
  y := position.2
  params := if kind.isLeaf then some [] else none
  fields := if kind = .blackboard then some [] else none

/-- Creates a node of a kind. -/
def createNode (g : Graph) (kindText : String) (x y : Number) (name : String) :
    Except Fault (Node × Graph) := do
  let kind ← parseKind kindText
  let x ← coordinate x
  let y ← coordinate y
  let node := freshNode g.nextId kind name (clampPosition x y)
  return (node, g.append node)

/-- How far a pasted node is moved along both axes. -/
def pasteOffset : Float := 50.0

/-- Adds a copy of a node, with a new id, a free name and no connections. -/
def pasteNode (g : Graph) (copied : Node) : Except Fault (Node × Graph) := do
  let name ← g.uniqueCopyName copied.name
  let (x, y) := clampPosition (copied.x + pasteOffset) (copied.y + pasteOffset)
  let node := { copied with id := g.nextId, name := name, x := x, y := y }
  return (node, g.append node)

/-! ### Attributes -/

/-- The attribute of a label, if it may be edited on a node of a kind. -/
def parseAttribute (kind : NodeKind) (label : String) : Except Fault Attribute :=
  match Attribute.ofLabel? label with
  | none => .error (.notEditable label)
  | some (.detail d) =>
    if kind = .decorator then .ok (.detail d) else .error (.decoratorOnly label kind)
  | some other => .ok other

/-- Sets attributes one after the other, once all labels have been accepted. -/
def updateNode (g : Graph) (id : Int) (edits : List (String × String)) :
    Except Fault (Node × Graph) := do
  let node ← g.get id
  let attributes ← edits.mapM fun edit => parseAttribute node.kind edit.1
  let updated := (attributes.zip (edits.map (·.2))).foldl
    (fun node (which, value) => which.set node value) node
  return (updated, g.replace updated)

/-- Gives a decorator another behavior and empties everything that belonged to the old one. -/
def setDecorator (g : Graph) (id : Int) (kindText : String) : Except Fault (Node × Graph) := do
  let node ← g.get id
  if node.kind ≠ .decorator then .error (Fault.notDecorator id node.kind).raised
  else
    let kind ← parseDecorator kindText
    let cleared := Detail.all.foldl (fun node d => node.setDetail "" d) node
    let updated := { cleared with
      func := ""
      params := if kind = .conditionInterrupt then some [] else none
      decorator := some kind }
    return (updated, g.replace updated)

/-! ### Positions -/

/-- A node at the position nearest to the given one. -/
def place (node : Node) (x y : Float) : Node :=
  let (x, y) := clampPosition x y
  { node with x := x, y := y }

/-- Moves a node. -/
def moveNode (g : Graph) (id : Int) (x y : Number) : Except Fault (Node × Graph) := do
  let node ← g.get id
  let x ← coordinate x
  let y ← coordinate y
  let moved := place node x y
  return (moved, g.replace moved)

/-- Shifts a node and all nodes below it. -/
def moveWithDescendants (g : Graph) (id : Int) (dx dy : Number) :
    Except Fault (List Node × Graph) := do
  let group ← g.descendants id
  let dx ← coordinate dx
  let dy ← coordinate dy
  let moved := group.map fun node => place node (node.x + dx) (node.y + dy)
  return (moved, moved.foldl replace g)

/-! ### Lists of a node -/

/-- An answer beside the graph that it leaves. -/
abbrev Edited (α : Type) := Except Fault α × Graph

/-- The item at a place in a list. -/
def item? {α : Type} (items : List α) (index : Int) : Option α :=
  if index < 0 then none else items[index.toNat]?

/-- The node of an id that takes arguments. -/
def paramOwner (g : Graph) (id : Int) : Except Fault Node := do
  let node ← g.get id
  if node.acceptsParams then .ok node
  else .error (Fault.takesNoParams id node.effectiveType).raised

/-- The blackboard of an id. -/
def blackboard (g : Graph) (id : Int) : Except Fault Node := do
  let node ← g.get id
  if node.kind = .blackboard then .ok node
  else .error (Fault.notBlackboard id node.kind).raised

/-- Changes a node's arguments; without a change they are still set. -/
def editParams (g : Graph) (id : Int)
    (change : List Param → Except Fault (Param × List Param)) : Edited Param :=
  match g.paramOwner id with
  | .error fault => (.error fault, g)
  | .ok node =>
    let params := node.params.getD []
    match change params with
    | .error fault => (.error fault, g.replace { node with params := some params })
    | .ok (param, changed) => (.ok param, g.replace { node with params := some changed })

/-- Changes a blackboard's fields; without a change they are still set. -/
def editFields (g : Graph) (id : Int)
    (change : List Field → Except Fault (Field × List Field)) : Edited Field :=
  match g.blackboard id with
  | .error fault => (.error fault, g)
  | .ok node =>
    let fields := node.fields.getD []
    match change fields with
    | .error fault => (.error fault, g.replace { node with fields := some fields })
    | .ok (field, changed) => (.ok field, g.replace { node with fields := some changed })

/-- Adds an argument behind the others. -/
def addParam (g : Graph) (id : Int) (name value : String) : Edited Param :=
  g.editParams id fun params =>
    let param : Param := ⟨name, value⟩
    .ok (param, params ++ [param])

/-- Changes the argument at a place; what is not given stays. -/
def updateParam (g : Graph) (id index : Int) (name value : Option String) : Edited Param :=
  g.editParams id fun params =>
    match item? params index with
    | none => .error (Fault.noParam index).raised
    | some old =>
      let param : Param := ⟨name.getD old.name, value.getD old.value⟩
      .ok (param, params.set index.toNat param)

/-- Removes the argument at a place. -/
def removeParam (g : Graph) (id index : Int) : Edited Param :=
  g.editParams id fun params =>
    match item? params index with
    | none => .error (Fault.noParam index).raised
    | some old => .ok (old, params.eraseIdx index.toNat)

/-- Adds a field behind the others. -/
def addField (g : Graph) (id : Int) (key value comment : String) : Edited Field :=
  g.editFields id fun fields =>
    let field : Field := ⟨key, value, comment⟩
    .ok (field, fields ++ [field])

/-- Changes the field at a place; what is not given stays. -/
def updateField (g : Graph) (id index : Int) (key value comment : Option String) : Edited Field :=
  g.editFields id fun fields =>
    match item? fields index with
    | none => .error (Fault.noField index).raised
    | some old =>
      let field : Field :=
        ⟨key.getD old.key, value.getD old.value, comment.getD old.comment⟩
      .ok (field, fields.set index.toNat field)

/-- Removes the field at a place. -/
def removeField (g : Graph) (id index : Int) : Edited Field :=
  g.editFields id fun fields =>
    match item? fields index with
    | none => .error (Fault.noField index).raised
    | some old => .ok (old, fields.eraseIdx index.toNat)

end Graph
end BehaviorTree
