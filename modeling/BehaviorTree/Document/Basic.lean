import BehaviorTree.Graph.Record
import BehaviorTree.Timestamp

/-!
# Documents

A document is what is saved of a graph, with the time of its creation and of its last change. Unlike
a graph it tells a text that is absent from one that is empty: what is absent is not written.

* `Document.toGraph`: the graph of a document.
* `Document.ofGraph`: the document of a graph.
* `Document.value`: the document value, without what is absent.
-/

namespace BehaviorTree

/-- An argument as it is saved. -/
structure ParamEntry where
  name : Option String := some ""
  value : Option String := some ""
  deriving DecidableEq, Repr, Inhabited

/-- A blackboard field as it is saved. -/
structure FieldEntry where
  key : Option String := some ""
  value : Option String := some ""
  comment : Option String := some ""
  deriving DecidableEq, Repr, Inhabited

/-- A node as it is saved. -/
structure NodeEntry where
  id : Int
  kind : NodeKind
  name : Option String := some ""
  x : Float := 0.0
  y : Float := 0.0
  func : Option String := none
  policy : Option String := none
  comment : Option String := none
  params : Option (List ParamEntry) := none
  decorator : Option DecoratorKind := none
  repeaterCount : Option String := none
  timeoutDuration : Option String := none
  retryCount : Option String := none
  cooldownDuration : Option String := none
  waitDuration : Option String := none
  subtree : Option String := none
  fields : Option (List FieldEntry) := none
  deriving DecidableEq, Repr, Inhabited

/-- A connection as it is saved. -/
structure LinkEntry where
  source : Int
  target : Int
  order : Option Int := none
  fromPoint : Option String := some "right"
  toPoint : Option String := some "left"
  deriving DecidableEq, Repr, Inhabited

/-- A saved graph. -/
structure Document where
  nodes : List NodeEntry := []
  connections : List LinkEntry := []
  version : String := documentVersion
  created : Option Timestamp := none
  modified : Option Timestamp := none
  deriving DecidableEq, Repr, Inhabited

/-! ### Graphs of documents -/

/-- The argument of an entry. -/
def ParamEntry.param (entry : ParamEntry) : Param := ⟨entry.name.getD "", entry.value.getD ""⟩

/-- The blackboard field of an entry. -/
def FieldEntry.field (entry : FieldEntry) : Field :=
  ⟨entry.key.getD "", entry.value.getD "", entry.comment.getD ""⟩

/-- A coordinate without the sign of zero. -/
def unsignedZero (x : Float) : Float := if x == 0.0 then 0.0 else x

/-- The node of an entry. -/
def NodeEntry.node (entry : NodeEntry) : Node where
  id := entry.id
  kind := entry.kind
  name := entry.name.getD ""
  x := unsignedZero entry.x
  y := unsignedZero entry.y
  func := entry.func.getD ""
  policy := entry.policy.getD ""
  comment := entry.comment.getD ""
  params := entry.params.map (·.map ParamEntry.param)
  decorator := entry.decorator
  repeaterCount := entry.repeaterCount
  timeoutDuration := entry.timeoutDuration
  retryCount := entry.retryCount
  cooldownDuration := entry.cooldownDuration
  waitDuration := entry.waitDuration
  subtree := entry.subtree
  fields := entry.fields.map (·.map FieldEntry.field)

/-- The link of an entry; an absent or empty point is the usual one. -/
def LinkEntry.link (entry : LinkEntry) : Link where
  source := entry.source
  target := entry.target
  order := entry.order
  fromPoint := Graph.textOr "right" (entry.fromPoint.getD "")
  toPoint := Graph.textOr "left" (entry.toPoint.getD "")

/-- The graph of a document. -/
def Document.toGraph (d : Document) : Except ImportFailure Graph :=
  Graph.build (d.nodes.map NodeEntry.node) (d.connections.map LinkEntry.link)

/-! ### Documents of graphs -/

/-- The entry of an argument. -/
def Param.entry (param : Param) : ParamEntry := ⟨some param.name, some param.value⟩

/-- The entry of a blackboard field. -/
def Field.entry (field : Field) : FieldEntry :=
  ⟨some field.key, some field.value, some field.comment⟩

/-- The entry of a node. -/
def Node.entry (node : Node) : NodeEntry where
  id := node.id
  kind := node.kind
  name := some node.name
  x := node.x
  y := node.y
  func := some node.func
  policy := some node.policy
  comment := some node.comment
  params := node.params.map (·.map Param.entry)
  decorator := node.decorator
  repeaterCount := node.repeaterCount
  timeoutDuration := node.timeoutDuration
  retryCount := node.retryCount
  cooldownDuration := node.cooldownDuration
  waitDuration := node.waitDuration
  subtree := node.subtree
  fields := node.fields.map (·.map Field.entry)

/-- The entry of a connection. -/
def Connection.entry (c : Connection) : LinkEntry :=
  ⟨c.source, c.target, some c.order, some c.fromPoint, some c.toPoint⟩

/-- The document of a graph. -/
def Document.ofGraph (g : Graph) (created modified : Timestamp) : Document where
  nodes := g.nodes.map Node.entry
  connections := g.connections.map Connection.entry
  created := some created
  modified := some modified

/-! ### Document values -/

/-- An argument as a document value. -/
def ParamEntry.toJson (entry : ParamEntry) : Json :=
  .object (Json.optional "name" .text entry.name ++ Json.optional "value" .text entry.value)

/-- A blackboard field as a document value. -/
def FieldEntry.toJson (entry : FieldEntry) : Json :=
  .object (Json.optional "key" .text entry.key ++ Json.optional "value" .text entry.value
    ++ Json.optional "comment" .text entry.comment)

/-- The value of a detail. -/
def NodeEntry.detail (entry : NodeEntry) : Detail → Option String
  | .repeaterCount => entry.repeaterCount
  | .timeoutDuration => entry.timeoutDuration
  | .retryCount => entry.retryCount
  | .cooldownDuration => entry.cooldownDuration
  | .waitDuration => entry.waitDuration
  | .subtree => entry.subtree

/-- A node as a document value. -/
def NodeEntry.toJson (entry : NodeEntry) : Json :=
  .object ([("id", .number (.int entry.id)), ("type", .text entry.kind.text)]
    ++ Json.optional "name" .text entry.name
    ++ [("x", .number (.float entry.x)), ("y", .number (.float entry.y))]
    ++ Json.optional "func" .text entry.func
    ++ Json.optional "policy" .text entry.policy
    ++ Json.optional "comment" .text entry.comment
    ++ Json.optional "params" (Json.list ParamEntry.toJson) entry.params
    ++ Json.optional "decoratorType" (fun kind => .text kind.text) entry.decorator
    ++ Detail.all.flatMap (fun d => Json.optional d.key .text (entry.detail d))
    ++ Json.optional "fields" (Json.list FieldEntry.toJson) entry.fields)

/-- A connection as a document value. -/
def LinkEntry.toJson (entry : LinkEntry) : Json :=
  .object ([("from", .number (.int entry.source)), ("to", .number (.int entry.target))]
    ++ Json.optional "order" (fun n => .number (.int n)) entry.order
    ++ Json.optional "fromPoint" .text entry.fromPoint
    ++ Json.optional "toPoint" .text entry.toPoint)

namespace Document

/-- The fields of a document that make up its graph. -/
def graphFields (d : Document) : List (String × Json) :=
  [("nodes", Json.list NodeEntry.toJson d.nodes),
   ("connections", Json.list LinkEntry.toJson d.connections), ("version", .text d.version)]

/-- A document as a document value, with the texts that its timestamps are written as. -/
def value (time : Timestamp → String) (d : Document) : Json :=
  .object (d.graphFields
    ++ Json.optional "createdAt" (fun t => .text (time t)) d.created
    ++ Json.optional "lastModified" (fun t => .text (time t)) d.modified)

end Document
end BehaviorTree
