import BehaviorTree.Keyed

/-!
# Document values

The values that a document is written in. Integers are unbounded and stay apart from doubles,
because the schema and the texts made from numbers tell them apart. An object keeps its keys in the
order of their first appearance; a later value for a key replaces the earlier one in place.
-/

namespace BehaviorTree

/-- A number as it is written in a document: an integer of any size, or a double. -/
inductive Number where
  | int (n : Int)
  | float (x : Float)
  deriving DecidableEq, Repr

/-- The double nearest to a number; none for an integer beyond the range of doubles. -/
def Number.toFloat? : Number → Option Float
  | .float x => some x
  | .int n => let x := Float.ofInt n; if x.isInf then none else some x

/-- A document value. -/
inductive Json where
  | null
  | bool (b : Bool)
  | number (n : Number)
  | text (s : String)
  | array (items : List Json)
  | object (fields : List (String × Json))
  deriving Repr, BEq, Inhabited

namespace Json

/-- Sets the value of a key: in place when the key is there, at the end otherwise. -/
def setField (key : String) (value : Json) (fields : List (String × Json)) : List (String × Json) :=
  Keyed.put Prod.fst (key, value) fields

/-- The object that results from setting the given fields one after the other. -/
def ofFields (fields : List (String × Json)) : Json :=
  .object (fields.foldl (fun acc field => setField field.1 field.2 acc) [])

/-- The value of a key among the fields of an object. -/
def lookup? (key : String) (fields : List (String × Json)) : Option Json := Keyed.value? key fields

/-- Whether a value is set at all: not null, false, zero or empty. -/
def isSet : Json → Bool
  | .null => false
  | .bool b => b
  | .number (.int n) => n ≠ 0
  | .number (.float x) => !(x == 0.0)
  | .text s => !s.isEmpty
  | .array items => !items.isEmpty
  | .object fields => !fields.isEmpty

mutual

/-- Whether a character is in a text of a value, or in a key. -/
def holds (c : Char) : Json → Bool
  | .null | .bool _ | .number _ => false
  | .text s => s.toList.contains c
  | .array items => itemsHold c items
  | .object fields => fieldsHold c fields

/-- Whether a character is in an item of a list. -/
def itemsHold (c : Char) : List Json → Bool
  | [] => false
  | item :: rest => holds c item || itemsHold c rest

/-- Whether a character is in a field of an object. -/
def fieldsHold (c : Char) : List (String × Json) → Bool
  | [] => false
  | (key, value) :: rest => key.toList.contains c || holds c value || fieldsHold c rest

end

/-! ### Looking up what was set -/

theorem lookup?_setField_self (key : String) (value : Json) (fields : List (String × Json)) :
    lookup? key (setField key value fields) = some value :=
  congrArg (Option.map Prod.snd) (Keyed.find?_put_self (key, value) fields)

theorem lookup?_setField_of_ne {key other : String} (h : other ≠ key) (value : Json)
    (fields : List (String × Json)) :
    lookup? other (setField key value fields) = lookup? other fields := by
  have key_ne : (key, value).1 ≠ other := Ne.symm h
  exact congrArg (Option.map Prod.snd) (Keyed.find?_put_of_ne key_ne fields)

end Json
end BehaviorTree
