import BehaviorTree.Lua.Chunk
import BehaviorTree.Lua.Value

/-!
# Evaluating chunks

A chunk is evaluated against stand-ins for what the game provides: a name of a group of `BT` is its
own text, and `require` yields a table with the path of the module.

* `Expr.evaluate?`, `Chunk.evaluate?`: the value of an expression and of a chunk.
* `Expr.usesStandIns`: whether an expression reads nothing but the stand-ins.
* `failure`: a failed check with the message of a checker.
-/

namespace BehaviorTree.Lua

/-- Why a chunk yields no value. -/
inductive ChunkError where
  /-- The text is no chunk. -/
  | malformed
  /-- The chunk stops with an error. -/
  | stopped
  deriving DecidableEq, Repr

namespace ChunkError

/-- The code of a chunk error. -/
def code : ChunkError → String
  | malformed => "E5001"
  | stopped => "E5002"

/-- The wording of a chunk error. -/
def message : ChunkError → String
  | malformed => "malformed chunk"
  | stopped => "chunk stopped with an error"

/-- The chunk error as an error with a code. -/
def error (e : ChunkError) : EditorError where
  code := e.code
  category := .script
  message := e.message

end ChunkError

/-! ### Evaluation -/

/-- Whether a key is the name of a group of `BT`. -/
def isGroup (key : ChunkText) : Bool :=
  [Group.nodeType, Group.parallelPolicy, Group.messageType].any fun group => .plain group.name = key

/-- The stand-in for the game's table: any name of a group would be found in it, none is listed. -/
def gameTable : Value :=
  .table ([Group.nodeType, Group.parallelPolicy, Group.messageType].map fun group =>
    (.text (.plain group.name), .table []))

/-- What a path leads to; none where a key is read from what has no keys. -/
def readPath (root : String) (keys : List ChunkText) : Option Value :=
  if root = "BT" then
    match keys with
    | [] => some gameTable
    | [group] => some (if isGroup group then .table [] else .nil)
    | [group, name] => if isGroup group then some (.text name) else none
    | _ => none
  else if keys.isEmpty then some (if root = "require" ∨ root = "error" then .function else .nil)
  else none

/-- What a call yields; none where it stops. -/
def callPath (root : String) (keys : List ChunkText) (argument : ChunkText) : Option Value :=
  if root = "require" ∧ keys.isEmpty then
    some (.table [(.text (.plain "module"), .text argument)])
  else none

mutual

/-- The value of an expression; none where its evaluation stops. -/
def Expr.evaluate? : Expr → Option Value
  | .nil => some .nil
  | .boolean b => some (.boolean b)
  | .number n => some (.number n)
  | .text s => some (.text s)
  | .path root keys => readPath root keys
  | .call root keys argument => callPath root keys argument
  | .table entries => (evaluateEntries? 1 [] entries).map .table

/-- The table that entries make, added to those before. `place` is the index of the next positional
entry; one whose value is nil uses its index up. -/
def evaluateEntries? (place : Nat) (before : List (Index × Value)) :
    List (EntryKey × Expr) → Option (List (Index × Value))
  | [] => some before
  | (some key, e) :: rest => do
    let value ← e.evaluate?
    evaluateEntries? place (Value.assign before (.text key) value) rest
  | (none, e) :: rest => do
    let value ← e.evaluate?
    evaluateEntries? (place + 1) (Value.assign before (.integer place) value) rest

end

/-- A value that a chunk may yield: texts have to be strings, though not those inside tables. -/
def yielded? : Value → Option Value
  | .text (.raw _) => none
  | value => some value

/-- The value of a chunk; a call alone yields nil. -/
def Chunk.evaluate? : Chunk → Option Value
  | .call root keys argument => (callPath root keys argument).map fun _ => .nil
  | .result e => e.evaluate?.bind yielded?

mutual

/-- Whether all that an expression reads are names of a group, and all that it calls is `require`. -/
def Expr.usesStandIns : Expr → Bool
  | .path root keys => root = "BT" && (match keys with
    | [group, _] => isGroup group
    | _ => false)
  | .call root keys _ => root = "require" && keys.isEmpty
  | .table entries => entriesUseStandIns entries
  | _ => true

/-- Whether all entries of a table read nothing but the stand-ins. -/
def entriesUseStandIns : List (EntryKey × Expr) → Bool
  | [] => true
  | (_, e) :: rest => e.usesStandIns && entriesUseStandIns rest

end

/-! ### Messages of a checker -/

/-- The digits between two colons at the start of a text. -/
def lineDigits? : List Char → Option (List Nat)
  | ':' :: cs =>
    match Text.spanDigits Text.digit? cs with
    | ([], _) => none
    | (digits, ':' :: _) => some digits
    | _ => none
  | _ => none

/-- The first digits between two colons in a text. -/
def firstLineDigits? : List Char → Option (List Nat)
  | [] => none
  | c :: cs => (lineDigits? (c :: cs)).or (firstLineDigits? cs)

/-- The line that a message names. -/
def lineOf (message : String) : Except Fault (Option Int) :=
  match firstLineDigits? message.toList with
  | none => .ok none
  | some digits =>
    match Text.natOfDigits digits with
    | .ok n => .ok (some n)
    | .error (.tooLong count) => .error (.numeralTooLong count)
    | .error .malformed => .ok none

/-- A failed check with the message of a checker: the error, and the line that it names. -/
def failure (code message : String) : Except Fault (EditorError × Option Int) := do
  let error ← EditorError.make code .script message none
  return (error, ← lineOf message)

/-! ### Checks -/

example : ((Chunk.read? isName "return x.y").bind Chunk.evaluate?).isNone = true := by
  decide +kernel
example : lineOf "[chunk]:x:12: near" = .ok (some 12) := by decide +kernel

end BehaviorTree.Lua
