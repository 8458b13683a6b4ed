import BehaviorTree.Lua.Literal

/-!
# Lua table constructors

A `Code` is a leaf or a table constructor with its entries in order. A table is written with one
entry a line, so that two versions of a script can be compared line by line.

* `Code.write`: the text of a code, for any way of writing the leaves.
* `Table.set`: adds an entry whose key has to be an identifier.
-/

namespace BehaviorTree.Lua

/-- The key of an entry: a name, a text in brackets, or nothing. -/
inductive Key where
  | named (name : String)
  | indexed (key : String)
  | positional
  deriving DecidableEq, Repr

/-- The written form of a key. -/
def Key.chars? : Key → Option (List Char)
  | named name => some name.toList
  | indexed key => some ('[' :: (quoteChars key.toList ++ [']']))
  | positional => none

/-- A leaf or a table constructor. -/
inductive Code (α : Type) where
  | leaf (a : α)
  | table (entries : List (Key × Code α))
  deriving Repr, BEq

/-- The entries of a table constructor. -/
abbrev Table (α : Type) := List (Key × Code α)

namespace Table

variable {α : Type}

/-- Adds an entry `name = value`. -/
def set (table : Table α) (name : String) (value : Code α) : Except Fault (Table α) :=
  if isIdentifier name then .ok (table ++ [(.named name, value)]) else .error (.notIdentifier name)

/-- Adds an entry `["key"] = value`. -/
def setIndexed (table : Table α) (key : String) (value : Code α) : Table α :=
  table ++ [(.indexed key, value)]

/-- Adds a positional entry. -/
def push (table : Table α) (value : Code α) : Table α := table ++ [(.positional, value)]

/-- The value of the first entry whose key is written like this. -/
def get? (table : Table α) (written : String) : Option (Code α) :=
  (table.find? fun entry => entry.1.chars? = some written.toList).map (·.2)

end Table

/-! ### Writing -/

/-- The indentation of a level; a level below the outermost has none. -/
def indentation (indent : List Char) (level : Int) : List Char :=
  (List.replicate level.toNat indent).flatten

/-- What stands before the value of an entry. -/
def entryStart (key : Key) : List Char :=
  match key.chars? with
  | some cs => cs ++ [' ', '=', ' ']
  | none => []

mutual

/-- The text of a code at a level of nesting. -/
def Code.write {α : Type} (print : α → List Char) (indent : List Char) (level : Int) :
    Code α → List Char
  | .leaf a => print a
  | .table [] => ['\x7b', '\x7d']
  | .table ((key, value) :: rest) =>
    '\x7b' :: '\n' :: (indentation indent (level + 1) ++ entryStart key
      ++ value.write print indent (level + 1) ++ writeEntries print indent (level + 1) rest
      ++ '\n' :: (indentation indent level ++ ['\x7d']))

/-- The entries of a table behind the first, each with the comma before it. -/
def writeEntries {α : Type} (print : α → List Char) (indent : List Char) (level : Int) :
    List (Key × Code α) → List Char
  | [] => []
  | (key, value) :: rest =>
    ',' :: '\n' :: (indentation indent level ++ entryStart key
      ++ value.write print indent level ++ writeEntries print indent level rest)

end

/-- The unit of indentation that is used where none is asked for. -/
def defaultIndent : String := "    "

/-- The text of a code at the outermost level. -/
def Code.render {α : Type} (print : α → List Char) (indent : String) (level : Int)
    (code : Code α) : String :=
  String.ofList (code.write print indent.toList level)

/-! ### Checks -/

example : (Code.table [(.named "a", .leaf ['1']), (.positional, .table [])]).render id "  " 0
    = "\x7b\n  a = 1,\n  \x7b\x7d\n\x7d" := by decide

end BehaviorTree.Lua
