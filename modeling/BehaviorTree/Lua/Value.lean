import BehaviorTree.Decimal.Layout
import BehaviorTree.Decimal.Whole
import BehaviorTree.Json.Value
import BehaviorTree.Fault
import BehaviorTree.Lua.ChunkText

/-!
# Lua values

The values that a script yields, and what they are as document values. A table is a list of entries
in the order of their assignment, each index once.

* `Value.assign`: sets an index of a table; nil removes it.
* `Value.sequence?`: the items of a table whose indices are the integers from one on.
* `Value.toJson`: the document value. Numbers become doubles, sequences lists, other tables objects.
-/

namespace BehaviorTree.Lua

open BehaviorTree.Text BehaviorTree.Decimal

/-- The string that a text of a chunk is. -/
def ChunkText.decode (s : ChunkText) : Except Fault String :=
  match s.string? with
  | some s => .ok s
  | none => .error .undecodableBytes

/-- The index of an entry of a table. -/
inductive Index where
  | integer (n : Int)
  /-- A double that is no integer of 64 bits. -/
  | float (x : Float)
  | text (s : ChunkText)
  | boolean (b : Bool)
  deriving DecidableEq, Repr

namespace Index

/-- The index of a double: whole numbers of 64 bits are integers. -/
def ofFloat (x : Float) : Index :=
  match truncate? x with
  | some n => if isWhole x ∧ isWord n then .integer n else .float x
  | none => .float x

/-- Whether an index is an integer. -/
def isInteger : Index → Bool
  | integer _ => true
  | _ => false

/-- The key of an index in an object. -/
def label : Index → Except Fault String
  | integer n => .ok (ofInt n)
  | float x => .ok (Layout.script.text x)
  | text s => s.decode
  | boolean b => .ok (if b then "True" else "False")

end Index

/-- A Lua value. -/
inductive Value where
  | nil
  | boolean (b : Bool)
  | number (n : Number)
  | text (s : ChunkText)
  | function
  | table (entries : List (Index × Value))
  deriving Repr, BEq, Inhabited

namespace Value

/-! ### Entries -/

/-- Sets an index of a table. Nil removes the entry. -/
def assign (entries : List (Index × Value)) (index : Index) (value : Value) :
    List (Index × Value) :=
  match value with
  | .nil => Keyed.remove Prod.fst index entries
  | _ => Keyed.put Prod.fst (index, value) entries

/-- The items of a table whose indices are exactly the integers from one to the number of entries,
of which there is at least one. -/
def sequence? {α : Type} (entries : List (Index × α)) : Option (List α) :=
  if entries.isEmpty then none
  else (List.range entries.length).mapM fun (place : Nat) =>
    Keyed.value? (Index.integer (place + 1)) entries

/-- The entries in the order in which a table lists them: those at integers, then the others, each
as they were assigned. -/
def listed {α : Type} (entries : List (Index × α)) : List (Index × α) :=
  (entries.filter fun entry => entry.1.isInteger)
    ++ entries.filter fun entry => !entry.1.isInteger

/-! ### Document values -/

/-- The most levels of tables below a value that is turned into a document value. -/
def depthLimit : Nat := 64

/-- The double of a number. -/
def doubleOf : Number → Float
  | .int n => Float.ofInt n
  | .float x => x

/-- A list from its items, or an object from its entries. All keys of an object are made before its
values. -/
def arrange (entries : List (Index × Except Fault Json)) : Except Fault Json :=
  match sequence? entries with
  | some items => do return .array (← items.mapM id)
  | none => do
    let labels ← (listed entries).mapM fun entry => entry.1.label
    let values ← (listed entries).mapM fun entry => entry.2
    return Json.ofFields (labels.zip values)

mutual

/-- The document value of a value at a depth. A text that is no string is a fault at any depth. -/
def toJsonAt (depth : Nat) (value : Value) : Except Fault Json :=
  let bounded (json : Except Fault Json) : Except Fault Json :=
    if depthLimit < depth then .error .nestedTooDeep else json
  match value with
  | .nil => bounded (.ok .null)
  | .boolean b => bounded (.ok (.bool b))
  | .number n => bounded (.ok (.number (.float (doubleOf n))))
  | .text s => do bounded (.ok (.text (← s.decode)))
  | .function => bounded (.error .functionValue)
  | .table entries => bounded (arrange (entriesAt (depth + 1) entries))

/-- The entries of a table with their document values. -/
def entriesAt (depth : Nat) : List (Index × Value) → List (Index × Except Fault Json)
  | [] => []
  | (index, value) :: rest => (index, toJsonAt depth value) :: entriesAt depth rest

end

/-- The document value of a value. -/
def toJson (value : Value) : Except Fault Json := toJsonAt 0 value

end Value
end BehaviorTree.Lua
