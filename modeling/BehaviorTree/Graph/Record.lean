import BehaviorTree.Graph.Build
import BehaviorTree.Graph.Edit
import BehaviorTree.Decimal.Whole
import BehaviorTree.Json.Display

/-!
# Graphs as document values

`Graph.toJson` writes a graph as a document value, and `Graph.ofJson` reads one. The reader is
lenient: whatever can be taken for an integer, a coordinate or a text is taken for it, and what
counts as unset counts as empty. A value that cannot be converted makes the whole graph malformed;
an integer or a coordinate out of range is a fault of its own. All values are converted before the
graph is checked, and a graph is not refused in words if they name an id that is too long.
-/

namespace BehaviorTree

/-- The version that documents are written in. -/
def documentVersion : String := "1.0"

/-! ### Writing -/

namespace Param

/-- An argument as a document value. -/
def toJson (param : Param) : Json :=
  .object [("name", .text param.name), ("value", .text param.value)]

end Param

namespace Field

/-- A blackboard field as a document value. -/
def toJson (field : Field) : Json :=
  .object [("key", .text field.key), ("value", .text field.value), ("comment", .text field.comment)]

end Field

namespace Json

/-- A field of an object that is left out when its value is unset. -/
def optional {α : Type} (key : String) (encode : α → Json) : Option α → List (String × Json)
  | some a => [(key, encode a)]
  | none => []

/-- A list of values. -/
def list {α : Type} (encode : α → Json) (items : List α) : Json := .array (items.map encode)

end Json

namespace Node

/-- A node as a document value: what is unset is left out. -/
def toJson (node : Node) : Json :=
  .object ([("id", .number (.int node.id)), ("type", .text node.kind.text),
      ("name", .text node.name), ("x", .number (.float node.x)), ("y", .number (.float node.y)),
      ("func", .text node.func), ("policy", .text node.policy), ("comment", .text node.comment)]
    ++ Json.optional "params" (Json.list Param.toJson) node.params
    ++ Json.optional "decoratorType" (fun kind => .text kind.text) node.decorator
    ++ Detail.all.flatMap (fun d => Json.optional d.key .text (node.detail d))
    ++ Json.optional "fields" (Json.list Field.toJson) node.fields)

end Node

namespace Connection

/-- A connection as a document value. -/
def toJson (c : Connection) : Json :=
  .object [("from", .number (.int c.source)), ("to", .number (.int c.target)),
    ("order", .number (.int c.order)), ("fromPoint", .text c.fromPoint),
    ("toPoint", .text c.toPoint)]

end Connection

namespace Graph

/-- A graph as a document value. -/
def toJson (g : Graph) : Json :=
  .object [("nodes", Json.list Node.toJson g.nodes),
    ("connections", Json.list Connection.toJson g.connections), ("version", .text documentVersion)]

/-! ### Reading -/

/-- The fault of a value that cannot be converted. -/
def malformed : Fault := .importing .malformedGraph

/-- An absent value turned into the fault of a malformed graph. -/
def required {α : Type} : Option α → Except Fault α
  | some a => .ok a
  | none => .error malformed

/-- The integer that a value stands for; a double loses its fractional part. -/
def integer : Json → Except Fault Int
  | .number (.int n) => .ok n
  | .number (.float x) =>
    if x.isInf then .error .outOfRange else required (Decimal.truncate? x)
  | .bool b => .ok (if b then 1 else 0)
  | .text s => required (Text.toInt s).toOption
  | _ => .error malformed

/-- The coordinate that a value stands for; what is unset stands for zero. -/
def coordinateOf (value : Json) : Except Fault Float :=
  if !value.isSet then .ok 0.0
  else match value with
    | .number n => coordinate n
    | .bool _ => .ok 1.0
    | .text s => required (Decimal.toFloat? s)
    | _ => .error malformed

/-- The items that a value is made of: those of a list, the keys of an object, the characters of a
text. -/
def itemsOf : Json → Except Fault (List Json)
  | .array items => .ok items
  | .object fields => .ok (fields.map fun field => .text field.1)
  | .text s => .ok (s.toList.map fun c => .text (String.ofList [c]))
  | _ => .error malformed

/-- The fields of a value that has to be an object. -/
def fieldsOf : Json → Except Fault (List (String × Json))
  | .object fields => .ok fields
  | _ => .error malformed

/-- The text that a value stands for. -/
def textOf (value : Json) : Except Fault String :=
  if value.hasText then .ok value.asText else .error malformed

/-- The text under a key; an absent value stands for the empty text. -/
def textAt (key : String) (fields : List (String × Json)) : Except Fault String :=
  textOf ((Json.lookup? key fields).getD .null)

/-- The integer under a key, which has to be there. -/
def integerAt (key : String) (fields : List (String × Json)) : Except Fault Int := do
  integer (← required (Json.lookup? key fields))

/-- The coordinate under a key; an absent value stands for zero. -/
def coordinateAt (key : String) (fields : List (String × Json)) : Except Fault Float :=
  coordinateOf ((Json.lookup? key fields).getD .null)

/-- The value under a key, unless it is absent or null. -/
def valueAt? (key : String) (fields : List (String × Json)) : Option Json :=
  match Json.lookup? key fields with
  | some .null => none
  | found => found

/-- The list under a key, unless it is absent or null. -/
def listAt {α : Type} (key : String) (read : Json → Except Fault α)
    (fields : List (String × Json)) : Except Fault (Option (List α)) :=
  match valueAt? key fields with
  | none => .ok none
  | some value => do some <$> (← itemsOf value).mapM read

/-- The items of a top-level list; what is unset counts as empty. -/
def topItems (key : String) (fields : List (String × Json)) : Except Fault (List Json) :=
  match Json.lookup? key fields with
  | none => .ok []
  | some value => if value.isSet then itemsOf value else .ok []

/-- Reads an argument. -/
def paramOf (value : Json) : Except Fault Param := do
  let fields ← fieldsOf value
  return ⟨← textAt "name" fields, ← textAt "value" fields⟩

/-- Reads a blackboard field. -/
def fieldOf (value : Json) : Except Fault Field := do
  let fields ← fieldsOf value
  return ⟨← textAt "key" fields, ← textAt "value" fields, ← textAt "comment" fields⟩

/-- Reads a kind from a text that is one of its exact texts. -/
def exactly {α : Type} (ofText? : String → Option α) : Json → Except Fault α
  | .text s => required (ofText? s)
  | _ => .error malformed

/-- Reads the kind of a node, which has to be there. -/
def kindAt (fields : List (String × Json)) : Except Fault NodeKind := do
  exactly NodeKind.ofText? (← required (Json.lookup? "type" fields))

/-- Reads the decorator behavior; what is unset counts as none. -/
def decoratorAt (fields : List (String × Json)) : Except Fault (Option DecoratorKind) :=
  match Json.lookup? "decoratorType" fields with
  | none => .ok none
  | some value =>
    if value.isSet then some <$> exactly DecoratorKind.ofText? value else .ok none

/-- Reads a detail of a node, unless it is absent or null. -/
def detailOf (fields : List (String × Json)) (node : Node) (d : Detail) : Except Fault Node :=
  match valueAt? d.key fields with
  | none => .ok node
  | some value => do return node.setDetail (← textOf value) d

/-- Reads a node. -/
def nodeOf (value : Json) : Except Fault Node := do
  let fields ← fieldsOf value
  let id ← integerAt "id" fields
  let kind ← kindAt fields
  let name ← textAt "name" fields
  let x ← coordinateAt "x" fields
  let y ← coordinateAt "y" fields
  let func ← textAt "func" fields
  let policy ← textAt "policy" fields
  let comment ← textAt "comment" fields
  let params ← listAt "params" paramOf fields
  let decorator ← decoratorAt fields
  let blackboard ← listAt "fields" fieldOf fields
  Detail.all.foldlM (detailOf fields)
    { id, kind, name, x, y, func, policy, comment, params, decorator, fields := blackboard }

/-- A text, or another one where it is empty. -/
def textOr (default s : String) : String := if s.isEmpty then default else s

/-- Reads the order of a link, unless it is absent or null. -/
def orderAt (fields : List (String × Json)) : Except Fault (Option Int) :=
  match valueAt? "order" fields with
  | none => .ok none
  | some value => some <$> integer value

/-- Reads a link. -/
def linkOf (value : Json) : Except Fault Link := do
  let fields ← fieldsOf value
  let source ← integerAt "from" fields
  let target ← integerAt "to" fields
  let order ← orderAt fields
  let fromPoint ← textAt "fromPoint" fields
  let toPoint ← textAt "toPoint" fields
  return ⟨source, target, order, textOr "right" fromPoint, textOr "left" toPoint⟩

/-- Reads the nodes of a graph. -/
def nodesOf (fields : List (String × Json)) : Except Fault (List Node) := do
  (← topItems "nodes" fields).mapM nodeOf

/-- Reads the links of a graph. -/
def linksOf (fields : List (String × Json)) : Except Fault (List Link) := do
  (← topItems "connections" fields).mapM linkOf

/-- The fault of a graph that is refused. -/
def refused (failure : ImportFailure) : Fault := (Fault.importing failure).raised

/-- Reads a graph. -/
def ofJson : Json → Except Fault Graph
  | .object fields => do
    let nodes ← nodesOf fields
    let links ← linksOf fields
    (build nodes links).mapError refused
  | _ => .error (.importing .graphNotObject)

end Graph
end BehaviorTree
