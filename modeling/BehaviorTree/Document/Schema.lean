import BehaviorTree.Document.Basic
import BehaviorTree.Document.Library
import BehaviorTree.Json.Encoding

/-!
# Reading and writing documents

A document value is read by the schema: entry by entry, each field in the order of the schema, and
the first problem is reported with its place. Then the graph of the document is built, so that a
document that is read can be loaded.

Some fields have two spellings, the one that is written and a longer one with underscores. When both
are there the written one counts.

* `Library.document`: the document of a value, by the conversions of a library.
* `Library.parse`, `Library.parseBytes`, `Library.read`: read a document of a text, of bytes and of a
  value.
* `Library.render`: the text of a document.
* `Document.parse` and so on: the same with the standard library.
-/

namespace BehaviorTree

open BehaviorTree.Text

namespace Document

/-- The reading of a part of a document: a value, or a problem with its place inside the part. -/
abbrev Checked (α : Type) := Except (List String × ValueProblem) α

namespace Checked

variable {α : Type}

/-- A reading without parts. -/
def ofExcept (r : Except ValueProblem α) : Checked α := r.mapError fun problem => ([], problem)

/-- A reading as part of a larger one. -/
def within (step : String) (r : Checked α) : Checked α :=
  r.mapError fun (place, problem) => (step :: place, problem)

/-- Reads each item of a list. -/
def list (read : Json → Checked α) : Json → Checked (List α)
  | .array items => items.zipIdx.mapM fun (item, index) => (read item).within (ofNat index)
  | _ => .error ([], .notList)

/-- Reads a value that may be null. -/
def nullable (read : Json → Checked α) : Json → Checked (Option α)
  | .null => .ok none
  | value => some <$> read value

/-- The value under the first of some spellings that is there, with the spelling. -/
def find? (spellings : List String) (fields : List (String × Json)) : Option (String × Json) :=
  spellings.findSome? fun key => (Json.lookup? key fields).map fun value => (key, value)

/-- Reads a field, or takes what stands for an absent one. -/
def field (spellings : List String) (absent : Checked α) (read : Json → Checked α)
    (fields : List (String × Json)) : Checked α :=
  match find? spellings fields with
  | some (key, value) => (read value).within key
  | none => absent

/-- Reads a field that has to be there. -/
def required (spellings : List String) (read : Json → Checked α) (fields : List (String × Json)) :
    Checked α :=
  field spellings (.error ([spellings.headD ""], .missing)) read fields

/-- Reads a field that may be absent. -/
def default (spellings : List String) (absent : α) (read : Json → Checked α)
    (fields : List (String × Json)) : Checked α :=
  field spellings (.ok absent) read fields

/-- The fields of a value that has to be an object; `what` names it in the problem. -/
def fieldsOf (what : String) : Json → Checked (List (String × Json))
  | .object fields => .ok fields
  | _ => .error ([], .notObject what)

end Checked

open Checked

/-! ### Entries -/

section entries

variable (lib : Library)

/-- Reads a text. -/
def text (value : Json) : Checked String := ofExcept (lib.text value)

/-- Reads an integer. -/
def integer (value : Json) : Checked Int := ofExcept (lib.integer value)

/-- Reads a coordinate. -/
def double (value : Json) : Checked Float := ofExcept (lib.double value)

/-- Reads a text that may be null, or takes what stands for an absent one. -/
def textField (key : String) (absent : Option String) (fields : List (String × Json)) :
    Checked (Option String) :=
  default [key] absent (nullable (text lib)) fields

/-- Reads an argument. -/
def paramEntry (value : Json) : Checked ParamEntry := do
  let fields ← fieldsOf "ParamModel" value
  return ⟨← textField lib "name" (some "") fields, ← textField lib "value" (some "") fields⟩

/-- Reads a blackboard field. -/
def fieldEntry (value : Json) : Checked FieldEntry := do
  let fields ← fieldsOf "FieldModel" value
  return ⟨← textField lib "key" (some "") fields, ← textField lib "value" (some "") fields,
    ← textField lib "comment" (some "") fields⟩

/-- Reads a decorator behavior; null and the empty text stand for none. -/
def decorator (value : Json) : Checked (Option DecoratorKind) :=
  match value with
  | .null | .text "" => .ok none
  | _ => some <$> ofExcept (Coercion.oneOf DecoratorKind.ofText? .notDecoratorKind value)

/-- Reads a detail of a decorator. -/
def detail (d : Detail) (fields : List (String × Json)) : Checked (Option String) :=
  default [d.key, d.name] none (nullable (text lib)) fields

/-- Reads a node. -/
def nodeEntry (value : Json) : Checked NodeEntry := do
  let members ← fieldsOf "NodeModel" value
  let id ← required ["id"] (integer lib) members
  let kind ← required ["type"]
    (fun value => ofExcept (Coercion.oneOf NodeKind.ofText? .notNodeKind value)) members
  let name ← textField lib "name" (some "") members
  let x ← default ["x"] 0.0 (double lib) members
  let y ← default ["y"] 0.0 (double lib) members
  let func ← textField lib "func" none members
  let policy ← textField lib "policy" none members
  let comment ← textField lib "comment" none members
  let params ← default ["params"] none (nullable (list (paramEntry lib))) members
  let decorator ← default ["decoratorType", "decorator_type"] none decorator members
  let repeaterCount ← detail lib .repeaterCount members
  let timeoutDuration ← detail lib .timeoutDuration members
  let retryCount ← detail lib .retryCount members
  let cooldownDuration ← detail lib .cooldownDuration members
  let waitDuration ← detail lib .waitDuration members
  let subtree ← detail lib .subtree members
  let fields ← default ["fields"] none (nullable (list (fieldEntry lib))) members
  return {
    id := id, kind, name, x, y, func, policy, comment, params, decorator
    repeaterCount, timeoutDuration, retryCount, cooldownDuration, waitDuration, subtree, fields }

/-- Reads a connection. -/
def linkEntry (value : Json) : Checked LinkEntry := do
  let fields ← fieldsOf "ConnectionModel" value
  let source ← required ["from", "from_id"] (integer lib) fields
  let target ← required ["to", "to_id"] (integer lib) fields
  let order ← default ["order"] none (nullable (integer lib)) fields
  let fromPoint ← default ["fromPoint", "from_point"] (some "right") (nullable (text lib)) fields
  let toPoint ← default ["toPoint", "to_point"] (some "left") (nullable (text lib)) fields
  return { source := source, target, order, fromPoint, toPoint }

/-- Reads a timestamp that may be null. -/
def timestamp (spellings : List String) (fields : List (String × Json)) :
    Checked (Option Timestamp) :=
  default spellings none (nullable fun value => ofExcept (lib.timestamp value)) fields

/-- Reads the fields of a document. -/
def ofFields (fields : List (String × Json)) : Checked Document := do
  let nodes ← default ["nodes"] [] (list (nodeEntry lib)) fields
  let connections ← default ["connections"] [] (list (linkEntry lib)) fields
  let version ← default ["version"] documentVersion (text lib) fields
  let created ← timestamp lib ["createdAt", "created_at"] fields
  let modified ← timestamp lib ["lastModified", "last_modified"] fields
  return { nodes := nodes, connections, version, created, modified }

end entries

end Document

/-! ### Documents -/

/-- The fault of a text that is no document value. -/
def Document.readFault (cs : List Char) : Json.ReadError → Fault
  | .malformed problem offset =>
    let (line, column) := Json.position cs offset
    .importing (.notJson problem line column offset)
  | .longNumeral digits => .numeralTooLong digits

namespace Library

variable (lib : Library) (half : Char)

/-- The document of a document value. -/
def document : Json → Except ImportFailure Document
  | .object fields => do
    let d ← (Document.ofFields lib fields).mapError fun (place, problem) => .schema place problem
    let _ ← d.toGraph
    return d
  | _ => .error .notObject

/-- Reads a document of a document value. -/
def read (value : Json) : Except Fault Document :=
  (lib.document value).mapError fun failure => (Fault.importing failure).raised

/-- Reads a document of a text. -/
def parse (s : String) : Except Fault Document := do
  let value ← (Json.parse half s).mapError (Document.readFault s.toList)
  lib.read value

/-- Reads a document of bytes. -/
def parseBytes (bytes : List UInt8) : Except Fault Document := do
  let some cs := Json.decodeBytes? half bytes | .error .undecodableBytes
  let value ← (Json.parseChars half cs).mapError (Document.readFault cs)
  lib.read value

/-- The text of a document, compact or indented. -/
def render (d : Document) (indent : Option Nat) : Except Fault String :=
  lib.print (d.value lib.time) indent

end Library

namespace Document

/-- The document of a document value, by the standard library. -/
def ofJson (value : Json) : Except ImportFailure Document :=
  (Library.standard Json.privateHalf).document value

/-- Reads a document of a text, by the standard library. -/
def parse (s : String) : Except Fault Document :=
  (Library.standard Json.privateHalf).parse Json.privateHalf s

/-- Reads a document of bytes, by the standard library. -/
def parseBytes (bytes : List UInt8) : Except Fault Document :=
  (Library.standard Json.privateHalf).parseBytes Json.privateHalf bytes

/-- Reads a document that is given as a text, or as a value that has been read already. -/
def ofValue : Json → Except Fault Document
  | .text s => parse s
  | value => (Library.standard Json.privateHalf).read value

/-- The width of indentation of documents that are meant to be looked at. -/
def indentWidth : Nat := 2

/-- A document as a document value, by the standard library. -/
def toJson (d : Document) : Json := d.value Timestamp.document

/-- The text of a document, compact or indented, by the standard library. It is one for texts without
halves of surrogate pairs. -/
def render (d : Document) (indent : Option Nat) : String := d.toJson.render indent

end Document
end BehaviorTree
